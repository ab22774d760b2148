import ObjcAtlas.AddressLookup
import ObjcAtlas.Proofs.NumeralForms

/-! The texts that are read as addresses. Besides the two forms that an address is meant to have there is a third: what
stands after the mark is read as a numeral of its own, so it may have blanks, a sign and a second mark. -/
namespace ObjcAtlas.Address
open Numeral (Digits IsSign Signed canonicalChar isPadding ownMarks signedValue valueAfter decimalLimit)
variable {n : Int} {count : Nat} {mark : Char} {cs v : List Char} {s : String}

def IsMark (c : Char) : Prop := c = 'x' ∨ c = 'X'

def IsMarked (v : List Char) : Prop := ∃ mark cs, v = '0' :: mark :: cs ∧ IsMark mark

/-- A mark directly followed by hexadecimal digits, where decimal ones may be of any script. -/
inductive Hexadecimal : Int → List Char → Prop
  | mk {mark : Char} {cs : List Char} {ds : List Nat} (hm : IsMark mark) (h : Digits 16 (cs.map canonicalChar) ds) :
      Hexadecimal (valueAfter 16 0 ds) ('0' :: mark :: cs)

/-- So many decimal digits after a sign or none. -/
inductive Decimal : Int → Nat → List Char → Prop
  | mk {negative : Bool} {sign cs : List Char} {ds : List Nat} (hs : IsSign sign negative)
      (h : Digits 10 (cs.map canonicalChar) ds) :
      Decimal (signedValue negative (valueAfter 10 0 ds)) ds.length (sign ++ cs)

/-- Hexadecimal digits with more than the mark before them: blanks, a sign, or a mark of their own. -/
inductive Surplus : Int → List Char → Prop
  | mk {negative : Bool} {mark : Char} {pad lead sign own cs : List Char} {ds : List Nat} (hm : IsMark mark)
      (hpad : ∀ c ∈ pad, isPadding (canonicalChar c) = true) (hlead : lead.map canonicalChar = sign ++ own)
      (hs : IsSign sign negative) (hown : own ∈ ownMarks) (hne : pad ++ lead ≠ [])
      (h : Digits 16 (cs.map canonicalChar) ds) :
      Surplus (signedValue negative (valueAfter 16 0 ds)) ('0' :: mark :: (pad ++ (lead ++ cs)))

/-- The text without the blanks around it. -/
def stripped (s : String) : List Char := Text.trim Text.isBlank s.toList

def IsDocumented (v : List Char) : Prop := ∃ n, Hexadecimal n v ∨ ∃ count, Decimal n count v

section Signs
variable {sign lead : List Char} {negative : Bool}

theorem map_isSign (hs : IsSign sign negative) : sign.map canonicalChar = sign := by
  cases hs <;> rfl

theorem eq_of_map_isSign (hs : IsSign sign negative) (h : lead.map canonicalChar = sign) : lead = sign := by
  cases hs with
  | absent => exact List.map_eq_nil_iff.mp h
  | plus =>
    obtain ⟨c, rfl, hc⟩ := List.map_eq_singleton_iff.mp h
    rw [Numeral.eq_of_canonicalChar_eq hc (by decide) rfl]
  | minus =>
    obtain ⟨c, rfl, hc⟩ := List.map_eq_singleton_iff.mp h
    rw [Numeral.eq_of_canonicalChar_eq hc (by decide) rfl]

end Signs

section Forms

theorem signed_decimal_iff : Signed .decimal n (cs.map canonicalChar) ↔ ∃ count ≤ decimalLimit, Decimal n count cs := by
  constructor
  · intro h
    generalize hcs : cs.map canonicalChar = numeral at h
    obtain ⟨hs, hmagnitude⟩ := h
    cases hmagnitude with
    | decimal h hlimit =>
      obtain ⟨sign, digits, rfl, hsign, rfl⟩ := List.map_eq_append_iff.mp hcs
      obtain rfl := eq_of_map_isSign hs hsign
      exact ⟨_, hlimit, .mk hs h⟩
  · rintro ⟨_, hlimit, hs, h⟩
    rw [List.map_append, map_isSign hs]
    exact .mk hs (.decimal h hlimit)

theorem signed_hexadecimal_iff (hm : IsMark mark) :
    (∃ pad numeral, cs = pad ++ numeral ∧ (∀ c ∈ pad, isPadding (canonicalChar c) = true) ∧
        Signed .hexadecimal n (numeral.map canonicalChar)) ↔
      Hexadecimal n ('0' :: mark :: cs) ∨ Surplus n ('0' :: mark :: cs) := by
  constructor
  · rintro ⟨pad, numeral, rfl, hpad, h⟩
    generalize hnumeral : numeral.map canonicalChar = canonical at h
    obtain ⟨hs, hmagnitude⟩ := h
    cases hmagnitude with
    | hexadecimal hown h =>
      rw [← List.append_assoc] at hnumeral
      obtain ⟨lead, digits, rfl, hlead, rfl⟩ := List.map_eq_append_iff.mp hnumeral
      by_cases hne : pad ++ lead = []
      · obtain ⟨rfl, rfl⟩ := List.append_eq_nil_iff.mp hne
        obtain ⟨rfl, rfl⟩ := List.append_eq_nil_iff.mp hlead.symm
        cases hs
        exact Or.inl (.mk hm h)
      · exact Or.inr (.mk hm hpad hlead hs hown hne h)
  · rintro (h | h)
    · cases h with
      | mk _ h => exact ⟨[], cs, rfl, nofun, .mk .absent (.hexadecimal (List.mem_cons_self ..) h)⟩
    · cases h with
      | @mk _ _ pad lead _ _ digits _ _ hpad hlead hs hown _ h =>
        refine ⟨pad, lead ++ digits, rfl, hpad, ?_⟩
        rw [List.map_append, hlead, List.append_assoc]
        exact .mk hs (.hexadecimal hown h)

theorem Hexadecimal.isMarked (h : Hexadecimal n v) : IsMarked v := by
  obtain ⟨hm, -⟩ := h
  exact ⟨_, _, rfl, hm⟩

theorem Surplus.isMarked (h : Surplus n v) : IsMarked v := by
  obtain ⟨hm, -⟩ := h
  exact ⟨_, _, rfl, hm⟩

/-- The letter of a mark is no digit. -/
theorem Decimal.not_isMarked (h : Decimal n count v) : ¬ IsMarked v := by
  rintro ⟨mark, cs, hv, hm⟩
  obtain ⟨hs, h⟩ := h
  cases hs with
  | absent =>
    rw [List.nil_append] at hv
    subst hv
    have hmark : canonicalChar mark = mark := by rcases hm with rfl | rfl <;> rfl
    exact h.not_mark (by decide) mark (congrArg some hmark) hm
  | plus => cases hv
  | minus => cases hv

/-- Hexadecimal digits start with neither padding nor a sign nor a mark. -/
theorem Surplus.not_hexadecimal {m : Int} (h : Surplus n v) : ¬ Hexadecimal m v := by
  obtain ⟨hm, hpad, hlead, hs, hown, hne, -⟩ := h
  rename_i pad lead sign own cs _
  intro h
  cases h with
  | mk _ h =>
    cases pad with
    | cons c pad =>
      obtain ⟨hd, -⟩ := h
      have hc := hpad c (List.mem_cons_self ..)
      rw [Numeral.not_isPadding_of_digitValue? (Nat.le_refl 16) hd] at hc
      cases hc
    | nil =>
      rw [List.nil_append, List.map_append, hlead, List.append_assoc] at h
      cases hs with
      | plus =>
        obtain ⟨hd, -⟩ := h
        cases hd
      | minus =>
        obtain ⟨hd, -⟩ := h
        cases hd
      | absent =>
        have hown' : own ≠ [] := by
          rintro rfl
          exact hne (List.map_eq_nil_iff.mp hlead)
        simp only [ownMarks, List.mem_cons, List.not_mem_nil, or_false, hown', false_or] at hown
        rcases hown with rfl | rfl | rfl | rfl <;> exact h.not_mark (Nat.le_refl 16) _ rfl (by decide)

theorem Surplus.not_isDocumented (h : Surplus n v) : ¬ IsDocumented v := by
  rintro ⟨m, hhex | ⟨count, hdec⟩⟩
  · exact h.not_hexadecimal hhex
  · exact hdec.not_isMarked h.isMarked

end Forms

section Reading

theorem of_head?_stripped {c : Char} (h : (stripped s).head? = some c) : Text.isBlank c = false :=
  Text.of_head?_trim h

theorem of_getLast?_stripped {c : Char} (h : (stripped s).getLast? = some c) : Text.isBlank c = false :=
  Text.of_getLast?_trim h

theorem read?_marked (h : stripped s = '0' :: mark :: cs) (hm : IsMark mark) :
    read? s = some n ↔ Hexadecimal n (stripped s) ∨ Surplus n (stripped s) := by
  have hread : read? s = Numeral.read? .hexadecimal (String.ofList cs) := by
    rw [read?, ← stripped, h]
    exact if_pos hm
  have hlast : ∀ c, cs.getLast? = some c → Text.isBlank c = false := by
    intro c hc
    refine of_getLast?_stripped (s := s) ?_
    rw [h, List.getLast?_cons, List.getLast?_cons, hc]
    rfl
  rw [hread, Numeral.read?_eq_some_iff (by decide) hlast, h]
  exact signed_hexadecimal_iff hm

theorem read?_unmarked (h : ¬ IsMarked (stripped s)) :
    read? s = some n ↔ ∃ count ≤ decimalLimit, Decimal n count (stripped s) := by
  have hread : read? s = Numeral.read? .decimal (String.ofList (stripped s)) := by
    rw [read?, ← stripped]
    split
    · next mark cs hv =>
      have hm : ¬ (mark = 'x' ∨ mark = 'X') := fun hm => h ⟨mark, cs, hv, hm⟩
      rw [if_neg hm, hv]
    · rfl
  rw [hread, Numeral.read?_eq_some_iff (by decide) fun c => of_getLast?_stripped, ← signed_decimal_iff]
  constructor
  · rintro ⟨pad, numeral, hv, hpad, hsigned⟩
    cases pad with
    | nil =>
      rw [hv]
      exact hsigned
    | cons c pad =>
      have hblank : Text.isBlank c = false := by
        apply of_head?_stripped (s := s)
        rw [hv]
        rfl
      rw [Numeral.isBlank_of_isPadding (hpad c (List.mem_cons_self ..))] at hblank
      cases hblank
  · exact fun hsigned => ⟨[], stripped s, rfl, nofun, hsigned⟩

theorem read?_eq_some_iff (s : String) (n : Int) : read? s = some n ↔
    Hexadecimal n (stripped s) ∨ (∃ count ≤ decimalLimit, Decimal n count (stripped s)) ∨ Surplus n (stripped s) := by
  by_cases hmarked : IsMarked (stripped s)
  · have hdecimal : ¬ ∃ count ≤ decimalLimit, Decimal n count (stripped s) := fun ⟨_, _, h⟩ => h.not_isMarked hmarked
    obtain ⟨mark, cs, hv, hm⟩ := hmarked
    rw [read?_marked hv hm]
    simp only [hdecimal, false_or]
  · have hhex : ¬ Hexadecimal n (stripped s) := fun h => hmarked h.isMarked
    have hsurplus : ¬ Surplus n (stripped s) := fun h => hmarked h.isMarked
    rw [read?_unmarked hmarked]
    simp only [hhex, hsurplus, false_or, or_false]

theorem parse_eq_ok_iff {s : String} {n : Int} : parse s = .ok n ↔ read? s = some n := by
  rw [parse]
  cases read? s <;> simp

theorem parse_of_read?_eq_none (h : read? s = none) : parse s = .error (.configuration (.invalidAddress s)) := by
  rw [parse, h]

/-- A text is an address exactly if it has one of the two forms an address is meant to have or, in surplus, something
between its mark and its digits, and not both; for every other text the error names it. -/
theorem parse_forms (s : String) :
    (∀ n, parse s = .ok n ↔ Hexadecimal n (stripped s) ∨ (∃ count ≤ decimalLimit, Decimal n count (stripped s)) ∨
      Surplus n (stripped s)) ∧
    (parse s = .error (.configuration (.invalidAddress s)) ↔ ∀ n, parse s ≠ .ok n) ∧
    ¬ (IsDocumented (stripped s) ∧ ∃ n, Surplus n (stripped s)) := by
  refine ⟨fun n => parse_eq_ok_iff.trans (read?_eq_some_iff s n), ⟨?_, ?_⟩, ?_⟩
  · intro h n hn
    rw [h] at hn
    cases hn
  · intro h
    cases hread : read? s with
    | none => exact parse_of_read?_eq_none hread
    | some n => exact absurd (parse_eq_ok_iff.mpr hread) (h n)
  · rintro ⟨hdocumented, n, h⟩
    exact h.not_isDocumented hdocumented

/-- A second mark is accepted. -/
theorem not_all_documented : ¬ ∀ s n, parse s = .ok n → IsDocumented (stripped s) := by
  intro h
  have hdigits : Digits 16 ['1', '0'] [1, 0] := .mk rfl (.next rfl .nil)
  have hsurplus : Surplus 16 (stripped "0x0x10") :=
    @Surplus.mk false 'x' [] ['0', 'x'] [] ['0', 'x'] ['1', '0'] [1, 0] (Or.inl rfl) nofun rfl .absent (by decide)
      (by decide) hdigits
  exact hsurplus.not_isDocumented (h "0x0x10" 16 (by decide))

end Reading

end ObjcAtlas.Address
