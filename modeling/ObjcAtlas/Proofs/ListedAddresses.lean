import ObjcAtlas.AddressLookup
import ObjcAtlas.Proofs.FailingSteps
import ObjcAtlas.Proofs.PrintedDigits
import ObjcAtlas.Proofs.TextPieces

/-! Lists of addresses as they are written: one a line, decimal or hexadecimal, with blanks around them and blank lines
anywhere. Reading such a text gives the numbers that were written. -/
namespace ObjcAtlas.Address
variable {n : Nat} {cs l before after : List Char} {c : Char}

/-- A number in decimal within the length limit, or in hexadecimal after its mark. -/
inductive Denotes (n : Nat) : List Char → Prop
  | decimal {cs : List Char} (h : Numeral.Spells 10 n cs) (hlimit : cs.length ≤ Numeral.decimalLimit) : Denotes n cs
  | hexadecimal {mark : Char} {cs : List Char} (hmark : mark = 'x' ∨ mark = 'X') (h : Numeral.Spells 16 n cs) :
      Denotes n ('0' :: mark :: cs)

def AllBlank (cs : List Char) : Prop := ∀ c ∈ cs, Text.isBlank c = true

/-- A line without its end: blank, or one number with blanks around it. -/
inductive Line : List Char → Option Nat → Prop
  | blank {l : List Char} (hl : AllBlank l) : Line l none
  | address {n : Nat} {before cs after : List Char} (hbefore : AllBlank before) (h : Denotes n cs)
      (hafter : AllBlank after) : Line (before ++ cs ++ after) (some n)

/-- A text with these numbers on its lines, in this order. -/
inductive Lists : List Char → List Nat → Prop
  | last {l : List Char} {number : Option Nat} (hl : '\n' ∉ l) (h : Line l number) : Lists l number.toList
  | more {l rest : List Char} {number : Option Nat} {ns : List Nat} (hl : '\n' ∉ l) (h : Line l number)
      (hrest : Lists rest ns) : Lists (l ++ '\n' :: rest) (number.toList ++ ns)

section Numbers

theorem Denotes.ne_nil (h : Denotes n cs) : cs ≠ [] := by
  cases h with
  | decimal h => exact h.ne_nil
  | hexadecimal => exact List.cons_ne_nil _ _

theorem isBlank_of_digitValue? {d : Nat} (h : Numeral.digitValue? 16 c = some d) : Text.isBlank c = false := by
  have hc := Numeral.toNat_of_digitValue? (Nat.le_refl 16) h
  simp [Text.isBlank]
  omega

theorem Denotes.isBlank_eq_false (h : Denotes n cs) : ∀ c ∈ cs, Text.isBlank c = false := by
  have hdigits {base : Nat} {cs : List Char} (hb : 1 < base) (hb' : base ≤ 16) (h : Numeral.Spells base n cs) :
      ∀ c ∈ cs, Text.isBlank c = false := by
    intro c hc
    obtain ⟨d, hd⟩ := h.digitValue?_of_mem hb hb' c hc
    exact isBlank_of_digitValue? hd
  cases h with
  | decimal h => exact hdigits (by decide) (by decide) h
  | hexadecimal hmark h =>
    rw [List.forall_mem_cons, List.forall_mem_cons]
    refine ⟨by decide, ?_, hdigits (by decide) (by decide) h⟩
    rcases hmark with rfl | rfl <;> decide

theorem Denotes.trim_eq (h : Denotes n cs) (hbefore : AllBlank before) (hafter : AllBlank after) :
    Text.trim Text.isBlank (before ++ cs ++ after) = cs := by
  rw [Text.trim_append hbefore hafter]
  apply Text.trim_of_ends
  · exact fun c hc => h.isBlank_eq_false c (List.mem_of_head? hc)
  · exact fun c hc => h.isBlank_eq_false c (List.mem_of_getLast? hc)

/-- Only hexadecimal has a mark after a leading zero. -/
theorem Denotes.read? (h : Denotes n cs) (hbefore : AllBlank before) (hafter : AllBlank after) :
    Address.read? (String.ofList (before ++ cs ++ after)) = some (n : Int) := by
  unfold Address.read?
  rw [String.toList_ofList, h.trim_eq hbefore hafter]
  cases h with
  | hexadecimal hmark h => exact (if_pos hmark).trans (Numeral.read?_hexadecimal h)
  | decimal h hlimit =>
    have hread := Numeral.read?_decimal h hlimit
    split
    · next m rest =>
      have hm : ¬ (m = 'x' ∨ m = 'X') := by
        have hdigit := h.digitValue?_of_mem (by decide) (by decide) m (by simp)
        rintro (rfl | rfl) <;> simp [Numeral.digitValue?] at hdigit
      rw [if_neg hm, hread]
    · exact hread

theorem Denotes.parse (h : Denotes n cs) (hbefore : AllBlank before) (hafter : AllBlank after) :
    Address.parse (String.ofList (before ++ cs ++ after)) = .ok (n : Int) := by
  rw [Address.parse, h.read? hbefore hafter]

end Numbers

section Lines
variable {ns : List Nat} {number : Option Nat} {lineEnd : List Char}

/-- The rows are read as these numbers. -/
def ReadsAs (rows : List (List Char)) (ns : List Nat) : Prop :=
  List.Forall₂ (fun row (n : Nat) => parse (String.ofList row) = .ok (n : Int)) rows ns

/-- The rows that are not blank. -/
def filled (rows : List (List Char)) : List (List Char) := rows.filter fun row => !row.all Text.isBlank

theorem filled_append (rows more : List (List Char)) : filled (rows ++ more) = filled rows ++ filled more :=
  List.filter_append rows more

theorem readsAs_line (h : Line l number) (hend : AllBlank lineEnd) :
    ReadsAs (filled [l ++ lineEnd]) number.toList := by
  cases h with
  | blank hl =>
    have hall : (l ++ lineEnd).all Text.isBlank = true := List.all_eq_true.mpr (List.forall_mem_append.mpr ⟨hl, hend⟩)
    have hnone : filled [l ++ lineEnd] = [] := List.filter_cons_of_neg (by rw [hall]; exact Bool.false_ne_true)
    rw [hnone]
    exact .nil
  | @address n before cs after hbefore h hafter =>
    obtain ⟨c, hc⟩ := List.exists_mem_of_ne_nil cs h.ne_nil
    have hsome : (before ++ cs ++ after ++ lineEnd).all Text.isBlank = false :=
      List.all_eq_false.mpr ⟨c, by simp [hc], by simp [h.isBlank_eq_false c hc]⟩
    have hkept : filled [before ++ cs ++ after ++ lineEnd] = [before ++ cs ++ after ++ lineEnd] :=
      List.filter_cons_of_pos (by rw [hsome]; rfl)
    rw [hkept, List.append_assoc]
    exact .cons (h.parse hbefore (List.forall_mem_append.mpr ⟨hafter, hend⟩)) .nil

theorem readsAs_filled (h : Lists cs ns) : ReadsAs (filled (Text.linesKeepingEnds cs)) ns := by
  induction h with
  | @last l number hl h =>
    have hend : AllBlank [] := nofun
    have hread := readsAs_line h hend
    rw [Text.linesKeepingEnds_of_not_mem hl]
    split
    · next hnil => simpa [hnil, filled] using hread
    · simpa using hread
  | @more l rest number ns hl h _ ih =>
    have hend : AllBlank ['\n'] := by simp [AllBlank, Text.isBlank]
    have hread := readsAs_line h hend
    rw [Text.linesKeepingEnds_append_cons hl, ← List.singleton_append, filled_append]
    exact List.rel_append hread ih

/-- What was written is read, whatever the layout and the spelling of each number. -/
theorem readLines_listed {text : String} (h : Lists text.toList ns) :
    readLines text = .ok (ns.map Int.ofNat) := by
  have hread := readsAs_filled h
  rw [readLines]
  apply mapM_eq_ok_of_forall₂
  rw [List.forall₂_map_left_iff]
  exact hread

/-- Both bases, digits of either case, zeros before them, a blank line, and no end of the last line. -/
def mixedText : String := "\t0x00Ff \n \n007"

theorem lists_mixedText : Lists mixedText.toList [255, 7] := by
  have hfirst : Denotes 255 "0x00Ff".toList :=
    .hexadecimal (Or.inl rfl) ⟨2, .cons (Or.inl rfl) (.cons (Or.inl rfl)
      (.cons (Or.inr (by decide)) (.cons (Or.inl (by decide)) .nil)))⟩
  have hlast : Denotes 7 "007".toList :=
    .decimal ⟨2, .cons (Or.inl rfl) (.cons (Or.inl rfl) (.cons (Or.inl (by decide)) .nil))⟩ (by decide)
  have hnone : AllBlank [] := nofun
  have htab : AllBlank ['\t'] := by simp [AllBlank, Text.isBlank]
  have hblank : AllBlank [' '] := by simp [AllBlank, Text.isBlank]
  have hopen : Line "007".toList (some 7) := .address hnone hlast hnone
  exact .more (by decide) (.address htab hfirst hblank) (.more (by decide) (.blank hblank) (.last (by decide) hopen))

theorem readLines_mixedText : Lists mixedText.toList [255, 7] ∧ readLines mixedText = .ok [255, 7] :=
  ⟨lists_mixedText, readLines_listed lists_mixedText⟩

end Lines

end ObjcAtlas.Address
