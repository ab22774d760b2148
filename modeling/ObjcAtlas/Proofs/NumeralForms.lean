import ObjcAtlas.Proofs.PrintedDigits
import ObjcAtlas.Proofs.TextPieces

/-! What is read as an integer: blanks, a sign, and digits with single underscores between them, before which a
hexadecimal numeral may have a mark of its own. -/
namespace ObjcAtlas.Numeral
variable {base v w k m d : Nat} {n : Int} {c : Char} {cs xs rest : List Char} {ds : List Nat} {radix : Radix}

/-- Digits that continue a numeral, each with at most one underscore before it, and their values. -/
inductive MoreDigits (base : Nat) : List Char → List Nat → Prop
  | nil : MoreDigits base [] []
  | next {c : Char} {d : Nat} {cs : List Char} {ds : List Nat} (h : digitValue? base c = some d)
      (hcs : MoreDigits base cs ds) : MoreDigits base (c :: cs) (d :: ds)
  | parted {c : Char} {d : Nat} {cs : List Char} {ds : List Nat} (h : digitValue? base c = some d)
      (hcs : MoreDigits base cs ds) : MoreDigits base ('_' :: c :: cs) (d :: ds)

/-- At least one digit; single underscores may stand between digits. -/
inductive Digits (base : Nat) : List Char → List Nat → Prop
  | mk {c : Char} {d : Nat} {cs : List Char} {ds : List Nat} (h : digitValue? base c = some d)
      (hcs : MoreDigits base cs ds) : Digits base (c :: cs) (d :: ds)

/-- A sign or none, and whether it negates. -/
inductive IsSign : List Char → Bool → Prop
  | absent : IsSign [] false
  | plus : IsSign ['+'] false
  | minus : IsSign ['-'] true

def signedValue (negative : Bool) (v : Nat) : Int := if negative then -(v : Int) else v

/-- What may stand before the digits of a hexadecimal numeral. -/
def ownMarks : List (List Char) := [[], ['0', 'x'], ['0', 'X'], ['0', 'x', '_'], ['0', 'X', '_']]

section Scanning

theorem exists_of_scan (h : scan base v k cs = some (w, m, rest)) :
    ∃ front ds, cs = front ++ rest ∧ MoreDigits base front ds ∧ w = valueAfter base v ds ∧ m = k + ds.length := by
  fun_induction scan base v k cs with
  | case1 v k =>
    cases h
    exact ⟨[], [], rfl, .nil, rfl, rfl⟩
  | case2 v k c cs d hd ih =>
    obtain ⟨front, ds, rfl, hfront, rfl, rfl⟩ := ih h
    exact ⟨'_' :: c :: front, d :: ds, rfl, .parted hd hfront, rfl, by rw [List.length_cons]; omega⟩
  | case3 => cases h
  | case4 v k c cs hc d hd ih =>
    obtain ⟨front, ds, rfl, hfront, rfl, rfl⟩ := ih h
    exact ⟨c :: front, d :: ds, rfl, .next hd hfront, rfl, by rw [List.length_cons]; omega⟩
  | case5 => cases h
  | case6 v k c cs =>
    cases h
    exact ⟨[], [], rfl, .nil, rfl, rfl⟩

theorem MoreDigits.scan_eq (hb : base ≤ 16) (h : MoreDigits base cs ds) (v k : Nat) :
    scan base v k cs = some (valueAfter base v ds, k + ds.length, []) := by
  induction h generalizing v k with
  | nil => rfl
  | next hd _ ih => rw [scan_cons hb hd, ih, valueAfter_cons, List.length_cons, Nat.add_assoc, Nat.add_comm 1]
  | parted hd _ ih => rw [scan, hd]; simp only [ih, valueAfter_cons, List.length_cons, Nat.add_assoc, Nat.add_comm 1]

theorem exists_of_scanDigits (h : scanDigits base cs = some (v, m, rest)) :
    ∃ front ds, cs = front ++ rest ∧ Digits base front ds ∧ v = valueAfter base 0 ds ∧ m = ds.length := by
  fun_cases scanDigits base cs with
  | case1 => cases h
  | case2 c cs d hd =>
    simp only [scanDigits, hd] at h
    obtain ⟨front, ds, rfl, hfront, rfl, rfl⟩ := exists_of_scan h
    refine ⟨c :: front, d :: ds, rfl, .mk hd hfront, ?_, ?_⟩
    · simp
    · rw [List.length_cons, Nat.add_comm]
  | case3 c cs hd => simp [scanDigits, hd] at h

theorem Digits.scanDigits_eq (hb : base ≤ 16) (h : Digits base cs ds) :
    scanDigits base cs = some (valueAfter base 0 ds, ds.length, []) := by
  obtain ⟨hd, hcs⟩ := h
  simp only [scanDigits, hd, hcs.scan_eq hb, valueAfter_cons, Nat.zero_mul, Nat.zero_add, List.length_cons,
    Nat.add_comm 1]

end Scanning

section Magnitudes

/-- What is read after the sign, and its value. -/
inductive Magnitude : Radix → Nat → List Char → Prop
  | decimal {cs : List Char} {ds : List Nat} (h : Digits 10 cs ds) (hlimit : ds.length ≤ decimalLimit) :
      Magnitude .decimal (valueAfter 10 0 ds) cs
  | hexadecimal {own cs : List Char} {ds : List Nat} (hown : own ∈ ownMarks) (h : Digits 16 cs ds) :
      Magnitude .hexadecimal (valueAfter 16 0 ds) (own ++ cs)

theorem exists_of_decimalMagnitude (h : decimalMagnitude cs = some (v, rest)) :
    ∃ front, cs = front ++ rest ∧ Magnitude .decimal v front := by
  cases hscan : scanDigits 10 cs with
  | none => simp [decimalMagnitude, hscan] at h
  | some r =>
    obtain ⟨w, m, tail⟩ := r
    obtain ⟨front, ds, rfl, hfront, rfl, rfl⟩ := exists_of_scanDigits hscan
    simp only [decimalMagnitude, hscan, Option.ite_none_right_eq_some, Option.some.injEq, Prod.mk.injEq] at h
    obtain ⟨hlimit, rfl, rfl⟩ := h
    exact ⟨front, rfl, .decimal hfront hlimit⟩

theorem Digits.decimalMagnitude_eq (h : Digits 10 cs ds) (hlimit : ds.length ≤ decimalLimit) :
    decimalMagnitude cs = some (valueAfter 10 0 ds, []) := by
  simp only [decimalMagnitude, h.scanDigits_eq (by decide), if_pos hlimit]

/-- Hexadecimal digits without a mark. -/
def bareMagnitude (cs : List Char) : Option (Nat × List Char) :=
  (scanDigits 16 cs).map fun (v, _, rest) => (v, rest)

theorem exists_own_mark (cs : List Char) :
    ∃ own digits, own ∈ ownMarks ∧ cs = own ++ digits ∧ magnitude .hexadecimal cs = bareMagnitude digits := by
  have hbare : ∃ own digits, own ∈ ownMarks ∧ cs = own ++ digits ∧ bareMagnitude cs = bareMagnitude digits :=
    ⟨[], cs, by decide, rfl, rfl⟩
  rw [magnitude.eq_def]
  split
  case h_2 m cs _ =>
    split
    · next hm =>
      have hunder : cs = '_' :: dropUnderscore cs ∨ cs = dropUnderscore cs := by
        fun_cases dropUnderscore cs with
        | case1 cs => exact Or.inl rfl
        | case2 cs => exact Or.inr rfl
      rcases hunder with hcs | hcs
      · exact ⟨['0', m, '_'], dropUnderscore cs, by rcases hm with rfl | rfl <;> decide, by rw [hcs]; rfl, rfl⟩
      · exact ⟨['0', m], dropUnderscore cs, by rcases hm with rfl | rfl <;> decide, by rw [← hcs]; rfl, rfl⟩
    · exact hbare
  case h_3 => exact hbare
  all_goals contradiction

theorem exists_of_hexadecimal (h : magnitude .hexadecimal cs = some (v, rest)) :
    ∃ front, cs = front ++ rest ∧ Magnitude .hexadecimal v front := by
  obtain ⟨own, digits, hown, rfl, hbare⟩ := exists_own_mark cs
  rw [hbare] at h
  obtain ⟨⟨w, m, tail⟩, hscan, hr⟩ := Option.map_eq_some_iff.mp h
  obtain ⟨rfl, rfl⟩ := Prod.mk.inj hr
  obtain ⟨front, ds, rfl, hfront, rfl, rfl⟩ := exists_of_scanDigits hscan
  exact ⟨own ++ front, (List.append_assoc _ _ _).symm, .hexadecimal hown hfront⟩

theorem magnitude_marked (hc : c = 'x' ∨ c = 'X') (cs : List Char) :
    magnitude .hexadecimal ('0' :: c :: cs) = markedMagnitude 16 cs := by
  rw [magnitude, if_pos hc]

theorem Digits.not_mark (hb : base ≤ 16) (h : Digits base (c :: cs) ds) :
    ∀ m, cs.head? = some m → ¬ (m = 'x' ∨ m = 'X') := by
  rintro m hm hmark
  obtain ⟨-, hcs⟩ := h
  cases hcs with
  | nil => cases hm
  | next hd =>
    obtain rfl := Option.some.inj hm
    have hd := ((digitValue?_eq_some_iff hb).mp hd).1
    rcases hmark with rfl | rfl <;> cases hd
  | parted => rcases hmark with rfl | rfl <;> cases hm

/-- No mark is part of the digits: an underscore does not start them, and a mark's letter does not continue them. -/
theorem Digits.hexadecimal_eq {own : List Char} (hown : own ∈ ownMarks) (h : Digits 16 cs ds) :
    magnitude .hexadecimal (own ++ cs) = some (valueAfter 16 0 ds, []) := by
  have hbare : bareMagnitude cs = some (valueAfter 16 0 ds, []) := by
    rw [bareMagnitude, h.scanDigits_eq (Nat.le_refl 16), Option.map_some]
  have hunder : dropUnderscore cs = cs := by
    obtain ⟨hd, -⟩ := h
    rw [dropUnderscore]
    rintro _ ⟨⟩
    cases hd
  have hmarked : markedMagnitude 16 cs = bareMagnitude cs := by rw [markedMagnitude, hunder, bareMagnitude]
  simp only [ownMarks, List.mem_cons, List.not_mem_nil, or_false] at hown
  rcases hown with rfl | rfl | rfl | rfl | rfl
  · rw [List.nil_append, magnitude.eq_def]
    split
    case h_2 m r _ => rw [if_neg (h.not_mark (Nat.le_refl 16) m rfl), ← hbare, bareMagnitude]
    case h_3 => rw [← hbare, bareMagnitude]
    all_goals contradiction
  · exact (magnitude_marked (Or.inl rfl) cs).trans (hmarked.trans hbare)
  · exact (magnitude_marked (Or.inr rfl) cs).trans (hmarked.trans hbare)
  · exact (magnitude_marked (Or.inl rfl) ('_' :: cs)).trans hbare
  · exact (magnitude_marked (Or.inr rfl) ('_' :: cs)).trans hbare

theorem exists_of_magnitude (hr : radix ≠ .marked) (h : magnitude radix cs = some (v, rest)) :
    ∃ front, cs = front ++ rest ∧ Magnitude radix v front := by
  cases radix with
  | decimal => exact exists_of_decimalMagnitude h
  | hexadecimal => exact exists_of_hexadecimal h
  | marked => exact absurd rfl hr

theorem Magnitude.magnitude_eq (h : Magnitude radix v cs) : magnitude radix cs = some (v, []) := by
  cases h with
  | decimal h hlimit => exact h.decimalMagnitude_eq hlimit
  | hexadecimal hown h => exact h.hexadecimal_eq hown

/-- The zero of a mark is a digit too. -/
theorem Magnitude.exists_digitValue? (h : Magnitude radix v cs) :
    ∀ c, cs.head? = some c → ∃ d, digitValue? 16 c = some d := by
  cases h with
  | decimal h =>
    obtain ⟨hd, -⟩ := h
    rintro c ⟨⟩
    exact ⟨_, ((digitValue?_eq_some_iff (by decide)).mp hd).1⟩
  | hexadecimal hown h =>
    simp only [ownMarks, List.mem_cons, List.not_mem_nil, or_false] at hown
    rcases hown with rfl | rfl | rfl | rfl | rfl
    · obtain ⟨hd, -⟩ := h
      rintro c ⟨⟩
      exact ⟨_, hd⟩
    all_goals
      rintro c ⟨⟩
      exact ⟨0, rfl⟩

theorem Magnitude.not_sign (h : Magnitude radix v cs) : ∀ c, cs.head? = some c → c ≠ '+' ∧ c ≠ '-' := by
  intro c hc
  obtain ⟨d, hd⟩ := h.exists_digitValue? c hc
  constructor
  · rintro rfl
    cases hd
  · rintro rfl
    cases hd

end Magnitudes

section Signs

/-- A numeral with its sign. -/
inductive Signed (radix : Radix) : Int → List Char → Prop
  | mk {negative : Bool} {v : Nat} {sign cs : List Char} (hs : IsSign sign negative) (h : Magnitude radix v cs) :
      Signed radix (signedValue negative v) (sign ++ cs)

/-- The value of digits after which nothing but padding follows. -/
def endedValue (negative : Bool) : Option (Nat × List Char) → Option Int
  | some (v, rest) => if rest.all isPadding then some (signedValue negative v) else none
  | none => none

theorem signed_append {sign : List Char} {negative : Bool} (hs : IsSign sign negative)
    (hcs : ∀ c, cs.head? = some c → c ≠ '+' ∧ c ≠ '-') :
    signed radix (sign ++ cs) = endedValue negative (magnitude radix cs) := by
  cases hs with
  | absent =>
    rw [List.nil_append, signed]
    · rfl
    · rintro r rfl
      exact (hcs '+' rfl).1 rfl
    · rintro r rfl
      exact (hcs '-' rfl).2 rfl
  | plus => rfl
  | minus => rfl

theorem exists_sign (radix : Radix) (cs : List Char) :
    ∃ sign negative digits, IsSign sign negative ∧ cs = sign ++ digits ∧
      signed radix cs = endedValue negative (magnitude radix digits) := by
  by_cases hcs : ∀ c, cs.head? = some c → c ≠ '+' ∧ c ≠ '-'
  · exact ⟨[], false, cs, .absent, rfl, signed_append .absent hcs⟩
  · cases cs with
    | nil => exact absurd nofun hcs
    | cons c cs =>
      by_cases hplus : c = '+'
      · subst hplus
        exact ⟨['+'], false, cs, .plus, rfl, rfl⟩
      · have hminus : c = '-' := by
          by_contra hminus
          apply hcs
          rintro a ⟨⟩
          exact ⟨hplus, hminus⟩
        subst hminus
        exact ⟨['-'], true, cs, .minus, rfl, rfl⟩

theorem exists_of_signed (hr : radix ≠ .marked) (h : signed radix cs = some n) :
    ∃ front rest, cs = front ++ rest ∧ Signed radix n front ∧ ∀ c ∈ rest, isPadding c = true := by
  obtain ⟨sign, negative, digits, hs, rfl, hsigned⟩ := exists_sign radix cs
  rw [hsigned] at h
  cases hm : magnitude radix digits with
  | none =>
    rw [hm] at h
    cases h
  | some r =>
    obtain ⟨v, rest⟩ := r
    rw [hm, endedValue, Option.ite_none_right_eq_some] at h
    obtain ⟨hrest, hn⟩ := h
    obtain rfl := Option.some.inj hn
    obtain ⟨front, rfl, hfront⟩ := exists_of_magnitude hr hm
    exact ⟨sign ++ front, rest, (List.append_assoc _ _ _).symm, .mk hs hfront, List.all_eq_true.mp hrest⟩

theorem Signed.signed_eq (h : Signed radix n cs) : signed radix cs = some n := by
  obtain ⟨hs, h⟩ := h
  rw [signed_append hs h.not_sign, h.magnitude_eq]
  rfl

theorem Signed.not_padding (h : Signed radix n cs) : ∀ c, cs.head? = some c → isPadding c = false := by
  obtain ⟨hs, h⟩ := h
  cases hs with
  | absent =>
    intro c hc
    obtain ⟨d, hd⟩ := h.exists_digitValue? c hc
    exact not_isPadding_of_digitValue? (Nat.le_refl 16) hd
  | plus =>
    rintro c ⟨⟩
    rfl
  | minus =>
    rintro c ⟨⟩
    rfl

end Signs

section Texts

theorem decimalValue?_lt (h : Text.decimalValue? c = some d) : d < 10 := by
  rw [Text.decimalValue?] at h
  split at h
  · simp only [Option.ite_none_right_eq_some, Option.some.injEq, Char.isDigit, Bool.and_eq_true, decide_eq_true_eq] at h
    obtain ⟨⟨-, hle⟩, rfl⟩ := h
    have hle' : c.toNat ≤ 57 := hle
    omega
  · obtain ⟨start, hfind, rfl⟩ := Option.map_eq_some_iff.mp h
    have hin := List.find?_some hfind
    simp only [Bool.and_eq_true, decide_eq_true_eq] at hin
    omega

theorem digitValue?_ofNat (h : d < 10) : digitValue? 10 (Char.ofNat (48 + d)) = some d :=
  (by decide : ∀ d < 10, digitValue? 10 (Char.ofNat (48 + d)) = some d) d h

/-- Only blanks and digits are changed when a text is made canonical. -/
theorem eq_of_canonicalChar_eq {a : Char} (ha : canonicalChar c = a) (hb : a ≠ ' ') (hd : digitValue? 10 a = none) :
    c = a := by
  rw [canonicalChar] at ha
  split at ha
  · exact ha
  · split at ha
    · exact absurd ha.symm hb
    · split at ha
      · next d hvalue =>
        subst ha
        rw [digitValue?_ofNat (decimalValue?_lt hvalue)] at hd
        cases hd
      · exact ha

theorem isBlank_of_isPadding (h : isPadding (canonicalChar c) = true) : Text.isBlank c = true := by
  have hpadding {a : Char} (ha : isPadding a = true) : a.toNat < 127 ∧ Text.isBlank a = true := by
    simp only [isPadding, Bool.or_eq_true, beq_iff_eq, Bool.and_eq_true, decide_eq_true_eq] at ha
    rcases ha with rfl | ha
    · decide
    · refine ⟨by omega, ?_⟩
      simp [Text.isBlank, ha]
  rw [canonicalChar] at h
  split at h
  · exact (hpadding h).2
  · split at h
    · assumption
    · split at h
      · next d hvalue =>
        rw [not_isPadding_of_digitValue? (by decide) (digitValue?_ofNat (decimalValue?_lt hvalue))] at h
        cases h
      · exact (hpadding h).2

/-- A text that does not end with a blank is read as an integer exactly if, after padding, it is a numeral. -/
theorem read?_eq_some_iff (hr : radix ≠ .marked) (hlast : ∀ c, cs.getLast? = some c → Text.isBlank c = false) :
    read? radix (String.ofList cs) = some n ↔ ∃ pad numeral, cs = pad ++ numeral ∧
      (∀ c ∈ pad, isPadding (canonicalChar c) = true) ∧ Signed radix n (numeral.map canonicalChar) := by
  rw [read?, String.toList_ofList]
  constructor
  · intro h
    obtain ⟨front, rest, hcs, hfront, hrest⟩ := exists_of_signed hr h
    rw [List.dropWhile_map] at hcs
    have hsplit : cs = cs.takeWhile (isPadding ∘ canonicalChar) ++ cs.dropWhile (isPadding ∘ canonicalChar) :=
      List.takeWhile_append_dropWhile.symm
    have hnil : rest = [] := by
      -- the last character of the rest would be a blank at the end of the text
      rcases List.eq_nil_or_concat' rest with rfl | ⟨r, a, rfl⟩
      · rfl
      · have hend := congrArg List.getLast? hcs
        rw [List.getLast?_map, ← List.append_assoc, List.getLast?_concat, Option.map_eq_some_iff] at hend
        obtain ⟨c, hc, rfl⟩ := hend
        have hblank := isBlank_of_isPadding (hrest (canonicalChar c) (by simp))
        have hlastc : cs.getLast? = some c := by
          rw [hsplit, List.getLast?_append, hc, Option.some_or]
        rw [hlast c hlastc] at hblank
        cases hblank
    rw [hnil, List.append_nil] at hcs
    refine ⟨_, _, hsplit, fun c hc => ?_, ?_⟩
    · simpa using List.mem_takeWhile_imp hc
    · rw [hcs]
      exact hfront
  · rintro ⟨pad, numeral, rfl, hpad, h⟩
    have hstart : ((pad ++ numeral).map canonicalChar).dropWhile isPadding = numeral.map canonicalChar := by
      rw [List.map_append]
      exact Text.dropWhile_append_of_head (List.forall_mem_map.mpr hpad) h.not_padding
    rw [hstart, h.signed_eq]

end Texts

end ObjcAtlas.Numeral
