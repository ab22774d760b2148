import ObjcAtlas.Document.Reader
import ObjcAtlas.Document.Writer
import ObjcAtlas.Proofs.TextPieces

/-! Documents that survive being written and read again: texts with all their escapes, integers within the length
limit, and whatever is composed of them. -/
namespace ObjcAtlas.Document

section Texts
variable {c : Char} {cs rest : List Char} {n fuel : Nat}

theorem digitValue?_hexDigit {d : Nat} (hd : d < 16) : Numeral.digitValue? 16 (Numeral.hexDigit d) = some d := by
  have hall : ∀ d < 16, Numeral.digitValue? 16 (Numeral.hexDigit d) = some d := by decide
  exact hall d hd

theorem codeUnit_hexPadded (hn : n < 0x10000) (rest : List Char) :
    codeUnit (Numeral.hexPadded 4 n ++ rest) = some (n, rest) := by
  have hdigit : ∀ m, Numeral.digitValue? 16 (Numeral.hexDigit (m % 16)) = some (m % 16) :=
    fun m => digitValue?_hexDigit (Nat.mod_lt m (by decide))
  simp [Numeral.hexPadded, codeUnit, hdigit]
  omega

/-- A character is no half of a pair. -/
theorem isHalf_eq_false (c : Char) : isHighHalf c.toNat = false ∧ isLowHalf c.toNat = false := by
  have hc : c.toNat < 0xd800 ∨ 0xdfff < c.toNat ∧ c.toNat < 0x110000 := c.valid
  simp [isHighHalf, isLowHalf]
  omega

theorem textChar_unit (hc : c.toNat < 0x10000) (rest : List Char) :
    textChar (unitEscape c.toNat ++ rest) = some (c, rest) := by
  obtain ⟨hhigh, hlow⟩ := isHalf_eq_false c
  have hchar : unitChar c.toNat = c := by simp [unitChar, hhigh, hlow]
  simp [unitEscape, textChar, unicodeEscape, codeUnit_hexPadded hc, hhigh, hchar]

theorem textChar_halves {high low : Nat} (hhigh : isHighHalf high = true) (hlow : isLowHalf low = true)
    (hc : 0x10000 + (high - 0xd800) * 0x400 + (low - 0xdc00) = c.toNat) (rest : List Char) :
    textChar (unitEscape high ++ unitEscape low ++ rest) = some (c, rest) := by
  have hhigh' : high < 0x10000 := by
    simp [isHighHalf] at hhigh
    omega
  have hlow' : low < 0x10000 := by
    simp [isLowHalf] at hlow
    omega
  simp only [unitEscape, List.cons_append, List.append_assoc, textChar, unicodeEscape, codeUnit_hexPadded hhigh',
    codeUnit_hexPadded hlow', hhigh, hlow, if_true, hc, Char.ofNat_toNat]

/-- A character beyond the basic plane is put together of its halves. -/
theorem textChar_pair (hc : 0x10000 ≤ c.toNat) (rest : List Char) :
    textChar (unitEscape (0xd800 + (c.toNat - 0x10000) / 0x400) ++
      unitEscape (0xdc00 + (c.toNat - 0x10000) % 0x400) ++ rest) = some (c, rest) := by
  have hmax : c.toNat < 0x110000 := by
    have hvalid : c.toNat < 0xd800 ∨ 0xdfff < c.toNat ∧ c.toNat < 0x110000 := c.valid
    omega
  apply textChar_halves
  · simp [isHighHalf]
    omega
  · simp [isLowHalf]
    omega
  · omega

/-- Every character is written so that it is read again, whatever follows it. -/
theorem textChar_escaped (c : Char) (rest : List Char) : textChar (escaped c ++ rest) = some (c, rest) := by
  unfold escaped
  split_ifs with hmark hfeed hreturn htab hform hback hplain hbasic
  · rcases hmark with rfl | rfl <;> rfl
  · subst hfeed
    rfl
  · subst hreturn
    rfl
  · subst htab
    rfl
  · subst hform
    rfl
  · subst hback
    rfl
  · have hc : c ≠ '\\' := fun h => hmark (Or.inr h)
    have hlow : ¬ c.toNat < 32 := by omega
    simp [textChar, hc, hlow]
  · exact textChar_unit hbasic rest
  · exact textChar_pair (Nat.le_of_not_lt hbasic) rest

/-- No written character closes the text. -/
theorem exists_escaped_eq_cons (c : Char) : ∃ d ds, escaped c = d :: ds ∧ d ≠ '"' := by
  by_cases hquote : c = '"'
  · subst hquote
    exact ⟨'\\', ['"'], rfl, by decide⟩
  · unfold escaped
    split_ifs <;> refine ⟨_, _, rfl, ?_⟩ <;> first | exact hquote | decide

theorem textBody_escaped (cs rest : List Char) (hfuel : cs.length < fuel) :
    textBody fuel (cs.flatMap escaped ++ '"' :: rest) = some (cs, rest) := by
  induction cs generalizing fuel with
  | nil =>
    obtain ⟨fuel, rfl⟩ := Nat.exists_eq_add_one_of_ne_zero (Nat.ne_of_gt hfuel)
    rfl
  | cons c cs ih =>
    obtain ⟨fuel, rfl⟩ := Nat.exists_eq_add_one_of_ne_zero (Nat.ne_of_gt (Nat.zero_lt_of_lt hfuel))
    obtain ⟨d, ds, hd, hne⟩ := exists_escaped_eq_cons c
    have hchar := textChar_escaped c (cs.flatMap escaped ++ '"' :: rest)
    have hrest := ih (Nat.lt_of_succ_lt_succ hfuel)
    rw [List.flatMap_cons, List.append_assoc]
    rw [hd, List.cons_append] at hchar ⊢
    simp [textBody, hne, hchar, hrest]

theorem length_le_length_flatMap_escaped (cs : List Char) : cs.length ≤ (cs.flatMap escaped).length := by
  induction cs with
  | nil => simp
  | cons c cs ih =>
    obtain ⟨d, ds, hd, -⟩ := exists_escaped_eq_cons c
    rw [List.flatMap_cons, List.length_append, hd, List.length_cons, List.length_cons]
    omega

theorem toList_writeText (s : String) : (writeText s).toList = '"' :: (s.toList.flatMap escaped ++ ['"']) := by
  simp [writeText]

theorem readText_written (s : String) (rest : List Char) :
    readText (s.toList.flatMap escaped ++ '"' :: rest) = .ok (s, rest) := by
  have hlength := length_le_length_flatMap_escaped s.toList
  have hfuel : s.toList.length < (s.toList.flatMap escaped ++ '"' :: rest).length + 1 := by
    simp only [List.length_append, List.length_cons]
    omega
  rw [readText, textBody_escaped s.toList rest hfuel]
  simp

end Texts

section Numbers
variable {c : Char} {n : Nat} {cs rest : List Char}

/-- What stands after a numeral without continuing it. -/
def EndsNumeral (rest : List Char) : Prop :=
  ∀ c, rest.head? = some c → c.isDigit = false ∧ c ≠ '.' ∧ c ≠ 'e' ∧ c ≠ 'E'

theorem digitsValue_toDigits (n : Nat) : digitsValue (Nat.toDigits 10 n) = n := by
  have hvalue := Nat.ofDigitChars_ten_toDigits (n := n)
  rw [Nat.ofDigitChars_eq_foldl] at hvalue
  simpa [digitsValue, Nat.mul_comm] using hvalue

theorem isDigit_of_mem_toDigits : ∀ c ∈ Nat.toDigits 10 n, c.isDigit = true :=
  fun _ => Nat.isDigit_of_mem_toDigits (by decide) (by decide)

/-- Only zero starts with the digit zero. -/
theorem head?_toDigits (hn : n ≠ 0) : (Nat.toDigits 10 n).head? ≠ some '0' := by
  induction n using Nat.strongRecOn with
  | _ n ih =>
    by_cases hlt : n < 10
    · simpa [Nat.toDigits_of_lt_base hlt] using hn
    · have hhead := ih (n / 10) (by omega) (by omega)
      rw [Nat.toDigits_of_base_le (by decide) (by omega)]
      rwa [List.head?_append_of_ne_nil _ Nat.toDigits_ne_nil]

theorem wholePart_toDigits (hrest : EndsNumeral rest) :
    wholePart (Nat.toDigits 10 n ++ rest) = some (Nat.toDigits 10 n, rest) := by
  by_cases hn : n = 0
  · subst hn
    rfl
  · have hhead := head?_toDigits hn
    have hstop : ∀ c, rest.head? = some c → c.isDigit = false := fun c hc => (hrest c hc).1
    have htake := Text.takeWhile_append_of_head isDigit_of_mem_toDigits hstop (l := Nat.toDigits 10 n)
    have hdrop := Text.dropWhile_append_of_head isDigit_of_mem_toDigits hstop (l := Nat.toDigits 10 n)
    obtain ⟨d, ds, hd⟩ := List.exists_cons_of_ne_nil (Nat.toDigits_ne_nil (n := n) (b := 10))
    rw [hd] at hhead htake hdrop ⊢
    rw [wholePart.eq_def]
    split
    · simp_all
    · rw [htake, hdrop]

theorem fraction_of_endsNumeral (hrest : EndsNumeral rest) : fraction rest = ([], rest) := by
  cases rest with
  | nil => rfl
  | cons c rest =>
    obtain ⟨-, hpoint, -⟩ := hrest c rfl
    rw [fraction.eq_def]
    split
    · simp_all
    · rfl

theorem exponent?_of_endsNumeral (hrest : EndsNumeral rest) : exponent? rest = none := by
  cases rest with
  | nil => rfl
  | cons c rest =>
    obtain ⟨-, -, hsmall, hcapital⟩ := hrest c rfl
    simp [exponent?, hsmall, hcapital]

theorem readNumber_toDigits (negative : Bool) (hlimit : (Nat.toDigits 10 n).length ≤ Numeral.decimalLimit)
    (hrest : EndsNumeral rest) :
    readNumber negative (Nat.toDigits 10 n ++ rest) = .ok (.int (if negative then -(n : Int) else n), rest) := by
  simp [readNumber, wholePart_toDigits hrest, fraction_of_endsNumeral hrest, exponent?_of_endsNumeral hrest, hlimit,
    digitsValue_toDigits]

end Numbers

section Values
variable {c : Char} {n : Nat} {d : Document} {fuel : Nat} {cs rest : List Char}

/-- What JSON text keeps: integers within the length limit but no other numbers, and records that have no key twice. -/
inductive Lossless : Document → Prop
  | null : Lossless .null
  | bool (b : Bool) : Lossless (.bool b)
  | int {n : Int} (h : (Nat.toDigits 10 n.natAbs).length ≤ Numeral.decimalLimit) : Lossless (.int n)
  | text (s : String) : Lossless (.text s)
  | list {xs : List Document} (h : ∀ x ∈ xs, Lossless x) : Lossless (.list xs)
  | object {fields : List (String × Document)} (hkeys : (fields.map (·.1)).Nodup) (h : ∀ f ∈ fields, Lossless f.2) :
      Lossless (.object fields)

/-- The first character of a value is no space and closes no list. -/
def StartsValue (cs : List Char) : Prop := ∃ c tail, cs = c :: tail ∧ isSpace c = false ∧ c ≠ ']'

/-- The value is read from its own text, whatever follows; the text shows from its first character that it is one. -/
structure ReadsBack (d : Document) : Prop where
  starts : StartsValue (write d).toList
  reads : ∀ {fuel : Nat} {rest : List Char}, (write d).toList.length ≤ fuel → EndsNumeral rest →
    readValue fuel ((write d).toList ++ rest) = .ok (d, rest)

/-! ## Words and numbers -/

theorem readWord_eq_none (h : ∀ w ∈ words, ¬ w.1.toList <+: cs) : readWord cs = none := by
  rw [readWord, List.findSome?_eq_none_iff]
  intro w hw
  have hword : w.1.toList.isPrefixOf cs = false := by
    rw [← Bool.not_eq_true, List.isPrefixOf_iff_prefix]
    exact h w hw
  simp [afterWord?, hword]

theorem readValue_digit (hc : c.isDigit = true) (cs : List Char) :
    readValue (fuel + 1) (c :: cs) = readNumber false (c :: cs) := by
  have hother : ∀ d ∈ ['-', '"', '[', '\x7b', 'n', 't', 'f', 'N', 'I'], d.isDigit = false := by
    rw [← List.forall_iff_forall_mem]
    decide
  have hne : ∀ d ∈ ['-', '"', '[', '\x7b', 'n', 't', 'f', 'N', 'I'], d ≠ c := by
    rintro d hd rfl
    exact absurd hc (by simp [hother d hd])
  simp only [List.forall_mem_cons] at hne
  obtain ⟨hminus, hquote, hbracket, hbrace, hletters⟩ := hne
  have hword : readWord (c :: cs) = none := by
    apply readWord_eq_none
    simp [words, List.cons_prefix_cons, hminus, hletters]
  simp [readValue, hword, hminus.symm, hquote.symm, hbracket.symm, hbrace.symm]

theorem readValue_minus (hc : c.isDigit = true) (cs : List Char) :
    readValue (fuel + 1) ('-' :: c :: cs) = readNumber true (c :: cs) := by
  have hne : 'I' ≠ c := by
    rintro rfl
    exact absurd hc (by decide)
  have hword : readWord ('-' :: c :: cs) = none := by
    apply readWord_eq_none
    simp [words, List.cons_prefix_cons, hne]
  simp [readValue, hword]

theorem readValue_toDigits (fuel : Nat) (hlimit : (Nat.toDigits 10 n).length ≤ Numeral.decimalLimit)
    (hrest : EndsNumeral rest) :
    readValue (fuel + 1) (Nat.toDigits 10 n ++ rest) = .ok (.int n, rest) ∧
      readValue (fuel + 1) ('-' :: Nat.toDigits 10 n ++ rest) = .ok (.int (-n), rest) := by
  obtain ⟨d, ds, hd⟩ := List.exists_cons_of_ne_nil (Nat.toDigits_ne_nil (n := n) (b := 10))
  have hdigit : d.isDigit = true := isDigit_of_mem_toDigits d (hd ▸ List.mem_cons_self)
  have hplus := readNumber_toDigits false hlimit hrest
  have hminus := readNumber_toDigits true hlimit hrest
  rw [hd] at hplus hminus ⊢
  exact ⟨(readValue_digit hdigit (ds ++ rest)).trans hplus, (readValue_minus hdigit (ds ++ rest)).trans hminus⟩

theorem toList_write_int (n : Int) :
    (write (.int n)).toList = (if n < 0 then ['-'] else []) ++ Nat.toDigits 10 n.natAbs := by
  rw [write, Numeral.decimal]
  split <;> simp

theorem startsValue_digit (hc : c.isDigit = true) (cs : List Char) : StartsValue (c :: cs) := by
  refine ⟨c, cs, rfl, ?_, ?_⟩
  · rw [← Bool.not_eq_true]
    intro hs
    simp only [isSpace, Bool.or_eq_true, beq_iff_eq] at hs
    rcases hs with ((rfl | rfl) | rfl) | rfl <;> exact absurd hc (by decide)
  · rintro rfl
    exact absurd hc (by decide)

theorem readsBack_int {n : Int} (hlimit : (Nat.toDigits 10 n.natAbs).length ≤ Numeral.decimalLimit) :
    ReadsBack (.int n) := by
  constructor
  · obtain ⟨d, ds, hd⟩ := List.exists_cons_of_ne_nil (Nat.toDigits_ne_nil (n := n.natAbs) (b := 10))
    rw [toList_write_int, hd]
    split
    · exact ⟨'-', d :: ds, rfl, by decide, by decide⟩
    · exact startsValue_digit (isDigit_of_mem_toDigits d (hd ▸ List.mem_cons_self)) ds
  · intro fuel rest hfuel hrest
    rw [toList_write_int] at hfuel ⊢
    have hpos := Nat.length_toDigits_pos (b := 10) (n := n.natAbs)
    obtain ⟨fuel, rfl⟩ := Nat.exists_eq_add_one_of_ne_zero (n := fuel) (by simp at hfuel; omega)
    obtain ⟨hplus, hminus⟩ := readValue_toDigits fuel hlimit hrest
    by_cases hn : n < 0
    · rw [if_pos hn]
      simpa [Int.ofNat_natAbs_of_nonpos (Int.le_of_lt hn)] using hminus
    · rw [if_neg hn]
      simpa [Int.natAbs_of_nonneg (Int.not_lt.mp hn)] using hplus

theorem readsBack_text (s : String) : ReadsBack (.text s) := by
  constructor
  · rw [write, toList_writeText]
    exact ⟨'"', _, rfl, by decide, by decide⟩
  · intro fuel rest hfuel _
    rw [write, toList_writeText] at hfuel ⊢
    obtain ⟨fuel, rfl⟩ := Nat.exists_eq_add_one_of_ne_zero (n := fuel) (by simp at hfuel; omega)
    have hread := readText_written s rest
    simp [readValue, hread]

theorem readsBack_null : ReadsBack .null := by
  constructor
  · exact ⟨'n', _, rfl, by decide, by decide⟩
  · intro fuel rest hfuel _
    obtain ⟨fuel, rfl⟩ := Nat.exists_eq_add_one_of_ne_zero (n := fuel) (by rintro rfl; exact absurd hfuel (by decide))
    rfl

theorem readsBack_bool (b : Bool) : ReadsBack (.bool b) := by
  constructor
  · cases b
    · exact ⟨'f', _, rfl, by decide, by decide⟩
    · exact ⟨'t', _, rfl, by decide, by decide⟩
  · intro fuel rest hfuel _
    obtain ⟨fuel, rfl⟩ := Nat.exists_eq_add_one_of_ne_zero (n := fuel)
      (by rintro rfl; revert hfuel; cases b <;> decide)
    cases b <;> rfl

/-! ## Lists and records -/

theorem skipSpace_of_starts (h : StartsValue cs) (rest : List Char) : skipSpace (cs ++ rest) = cs ++ rest := by
  obtain ⟨c, tail, rfl, hc, -⟩ := h
  exact List.dropWhile_cons_of_neg (by simp [hc])

/-- What stands after a value in a written text. -/
def closers : List Char := [',', ']', '\x7d', '\n']

theorem endsNumeral_cons (hc : c ∈ closers) (rest : List Char) : EndsNumeral (c :: rest) := by
  have hall : ∀ c ∈ closers, c.isDigit = false ∧ c ≠ '.' ∧ c ≠ 'e' ∧ c ≠ 'E' := by
    rw [← List.forall_iff_forall_mem]
    decide
  intro c' hc'
  cases hc'
  exact hall c hc

section Items
variable {x y : Document} {xs : List Document} {more : List Char}

def itemsText (xs : List Document) : List Char := (Text.joinWith ", " (writeItems xs)).toList

@[simp] theorem itemsText_singleton (x : Document) : itemsText [x] = (write x).toList := rfl

@[simp] theorem itemsText_cons_cons (x y : Document) (xs : List Document) :
    itemsText (x :: y :: xs) = (write x).toList ++ ',' :: ' ' :: itemsText (y :: xs) := by
  simp [itemsText, writeItems, Text.joinWith]

theorem startsValue_itemsText (hx : ReadsBack x) (xs : List Document) : StartsValue (itemsText (x :: xs)) := by
  obtain ⟨c, tail, hc, hspace, hclose⟩ := hx.starts
  cases xs with
  | nil => exact ⟨c, tail, hc, hspace, hclose⟩
  | cons y ys => exact ⟨c, _, by rw [itemsText_cons_cons, hc, List.cons_append], hspace, hclose⟩

theorem readItems_last (h : readValue fuel cs = .ok (x, ']' :: rest)) :
    readItems (fuel + 1) cs = .ok ([x], rest) := by
  rw [readItems, h]
  rfl

theorem readItems_more (h : readValue fuel cs = .ok (x, ',' :: ' ' :: more)) (hskip : skipSpace more = more)
    (hmore : readItems fuel more = .ok (xs, rest)) : readItems (fuel + 1) cs = .ok (x :: xs, rest) := by
  have hcomma : skipSpace (',' :: ' ' :: more) = ',' :: ' ' :: more := rfl
  have hblank : skipSpace (' ' :: more) = more := hskip
  simp only [readItems, h, bind, Except.bind, hcomma, hblank, hmore]
  rfl

theorem readItems_written (h : ∀ x ∈ xs, ReadsBack x) (hne : xs ≠ []) (hfuel : (itemsText xs).length < fuel)
    (rest : List Char) : readItems fuel (itemsText xs ++ ']' :: rest) = .ok (xs, rest) := by
  induction xs generalizing fuel with
  | nil => exact absurd rfl hne
  | cons x xs ih =>
    obtain ⟨fuel, rfl⟩ := Nat.exists_eq_add_one_of_ne_zero (Nat.ne_of_gt (Nat.zero_lt_of_lt hfuel))
    obtain ⟨hx, hxs⟩ := List.forall_mem_cons.mp h
    cases xs with
    | nil => exact readItems_last (hx.reads (Nat.le_of_lt_succ hfuel) (endsNumeral_cons (by decide) rest))
    | cons y ys =>
      rw [itemsText_cons_cons, List.length_append, List.length_cons, List.length_cons] at hfuel
      have hstarts := startsValue_itemsText (hxs y List.mem_cons_self) ys
      have hmore := ih hxs (List.cons_ne_nil y ys) (show (itemsText (y :: ys)).length < fuel by omega)
      rw [itemsText_cons_cons, List.append_assoc]
      exact readItems_more (hx.reads (by omega) (endsNumeral_cons (by decide) _)) (skipSpace_of_starts hstarts _) hmore

theorem readValue_items (hskip : skipSpace cs = cs) (hne : ∀ tail, cs ≠ ']' :: tail)
    (h : readItems fuel cs = .ok (xs, rest)) : readValue (fuel + 1) ('[' :: cs) = .ok (.list xs, rest) := by
  rw [readValue, hskip]
  split
  · next tail => exact absurd rfl (hne tail)
  · rw [h]
    rfl

theorem readsBack_list (h : ∀ x ∈ xs, ReadsBack x) : ReadsBack (.list xs) := by
  have htext : (write (.list xs)).toList = '[' :: (itemsText xs ++ [']']) := by simp [write, itemsText]
  constructor
  · exact ⟨'[', _, htext, by decide, by decide⟩
  · intro fuel rest hfuel _
    rw [htext] at hfuel ⊢
    simp only [List.length_cons, List.length_append, List.length_nil] at hfuel
    obtain ⟨fuel, rfl⟩ := Nat.exists_eq_add_one_of_ne_zero (n := fuel) (by omega)
    cases xs with
    | nil => rfl
    | cons x xs =>
      have hstarts := startsValue_itemsText (h x List.mem_cons_self) xs
      have hread := readItems_written h (List.cons_ne_nil x xs) (show (itemsText (x :: xs)).length < fuel by omega) rest
      rw [List.cons_append, List.append_assoc]
      apply readValue_items (skipSpace_of_starts hstarts _) _ hread
      obtain ⟨c, tail, hc, -, hclose⟩ := hstarts
      intro tail' he
      rw [hc] at he
      exact hclose (List.cons.inj he).1

end Items

section Fields
variable {key : String} {value : Document} {known fields : List (String × Document)} {more : List Char}

def fieldsText (fields : List (String × Document)) : List Char := (Text.joinWith ", " (writeFields fields)).toList

def fieldText (key : String) (value : Document) : List Char :=
  '"' :: (key.toList.flatMap escaped ++ '"' :: ':' :: ' ' :: (write value).toList)

@[simp] theorem fieldsText_singleton (key : String) (value : Document) :
    fieldsText [(key, value)] = fieldText key value := by
  simp [fieldsText, fieldText, writeFields, Text.joinWith, toList_writeText]

@[simp] theorem fieldsText_cons_cons (key : String) (value : Document) (f : String × Document)
    (fields : List (String × Document)) :
    fieldsText ((key, value) :: f :: fields) = fieldText key value ++ ',' :: ' ' :: fieldsText (f :: fields) := by
  simp [fieldsText, fieldText, writeFields, Text.joinWith, toList_writeText]

/-- A field is read and entered under its key; what stands after it decides how reading goes on. -/
theorem readFields_field (h : ReadsBack value) (hfuel : (fieldText key value).length ≤ fuel)
    (hc : c ∈ closers) (hspace : isSpace c = false) (rest : List Char) :
    readFields (fuel + 1) known (fieldText key value ++ c :: rest) =
      match c :: rest with
      | '\x7d' :: rest => .ok (Keyed.put key value known, rest)
      | ',' :: rest => readFields fuel (Keyed.put key value known) (skipSpace rest)
      | _ => .error .malformed := by
  have hlength : (write value).toList.length ≤ fuel := by
    simp [fieldText] at hfuel
    omega
  have hcolon : ∀ tail, skipSpace (':' :: tail) = ':' :: tail := fun _ => rfl
  have hvalue : skipSpace (' ' :: ((write value).toList ++ c :: rest)) = (write value).toList ++ c :: rest :=
    skipSpace_of_starts h.starts _
  have hafter : skipSpace (c :: rest) = c :: rest := List.dropWhile_cons_of_neg (by simp [hspace])
  simp only [fieldText, List.cons_append, List.append_assoc, readFields, readText_written, bind, Except.bind, hcolon,
    hvalue, h.reads hlength (endsNumeral_cons hc rest), hafter]
  rfl

theorem exists_fieldsText_eq_cons (key : String) (value : Document) (fields : List (String × Document)) :
    ∃ tail, fieldsText ((key, value) :: fields) = '"' :: tail := by
  cases fields with
  | nil => exact ⟨_, by rw [fieldsText_singleton, fieldText]⟩
  | cons f fields => exact ⟨_, by rw [fieldsText_cons_cons, fieldText, List.cons_append]⟩

theorem readFields_written (h : ∀ f ∈ fields, ReadsBack f.2) (hne : fields ≠ [])
    (hkeys : ((known ++ fields).map (·.1)).Nodup) (hfuel : (fieldsText fields).length < fuel) (rest : List Char) :
    readFields fuel known (fieldsText fields ++ '\x7d' :: rest) = .ok (known ++ fields, rest) := by
  induction fields generalizing fuel known with
  | nil => exact absurd rfl hne
  | cons f fields ih =>
    obtain ⟨key, value⟩ := f
    obtain ⟨fuel, rfl⟩ := Nat.exists_eq_add_one_of_ne_zero (Nat.ne_of_gt (Nat.zero_lt_of_lt hfuel))
    obtain ⟨(hvalue : ReadsBack value), hfields⟩ := List.forall_mem_cons.mp h
    have hnew : known.lookup key = none := by
      simp only [List.map_append, List.map_cons, List.nodup_append, List.mem_map, List.mem_cons] at hkeys
      rw [List.lookup_eq_none_iff]
      intro p hp
      exact bne_iff_ne.mpr (Ne.symm (hkeys.2.2 p.1 ⟨p, hp, rfl⟩ key (Or.inl rfl)))
    have hput := Keyed.put_of_lookup_eq_none hnew value
    cases fields with
    | nil =>
      rw [fieldsText_singleton] at hfuel ⊢
      rw [readFields_field hvalue (Nat.le_of_lt_succ hfuel) (by decide) (by decide), hput]
      rfl
    | cons g fields =>
      rw [fieldsText_cons_cons, List.length_append, List.length_cons, List.length_cons] at hfuel
      obtain ⟨tail, htail⟩ := exists_fieldsText_eq_cons g.1 g.2 fields
      have hskip : skipSpace (' ' :: (fieldsText (g :: fields) ++ '\x7d' :: rest)) =
          fieldsText (g :: fields) ++ '\x7d' :: rest := by
        rw [htail]
        rfl
      have hkeys' : ((known ++ [(key, value)] ++ g :: fields).map (·.1)).Nodup := by simpa using hkeys
      have hmore := ih hfields (List.cons_ne_nil g fields) hkeys' (show (fieldsText (g :: fields)).length < fuel by omega)
      rw [fieldsText_cons_cons, List.append_assoc, List.cons_append,
        readFields_field hvalue (by omega) (by decide) (by decide), hput]
      simp only [List.cons_append, hskip, hmore]
      simp

theorem readValue_fields (hskip : skipSpace cs = cs) (hne : ∀ tail, cs ≠ '\x7d' :: tail)
    (h : readFields fuel [] cs = .ok (fields, rest)) : readValue (fuel + 1) ('\x7b' :: cs) = .ok (.object fields, rest) := by
  rw [readValue, hskip]
  split
  · next tail => exact absurd rfl (hne tail)
  · rw [h]
    rfl

theorem readsBack_object (hkeys : (fields.map (·.1)).Nodup) (h : ∀ f ∈ fields, ReadsBack f.2) :
    ReadsBack (.object fields) := by
  have htext : (write (.object fields)).toList = '\x7b' :: (fieldsText fields ++ ['\x7d']) := by
    simp [write, fieldsText]
  constructor
  · exact ⟨'\x7b', _, htext, by decide, by decide⟩
  · intro fuel rest hfuel _
    rw [htext] at hfuel ⊢
    simp only [List.length_cons, List.length_append, List.length_nil] at hfuel
    obtain ⟨fuel, rfl⟩ := Nat.exists_eq_add_one_of_ne_zero (n := fuel) (by omega)
    cases fields with
    | nil => rfl
    | cons f fields =>
      obtain ⟨tail, htail⟩ := exists_fieldsText_eq_cons f.1 f.2 fields
      have hkeys' : (([] ++ f :: fields).map Prod.fst).Nodup := hkeys
      have hread := readFields_written h (List.cons_ne_nil f fields) hkeys'
        (show (fieldsText (f :: fields)).length < fuel by omega) rest
      rw [List.cons_append, List.append_assoc, List.singleton_append]
      rw [htail, List.cons_append] at hread ⊢
      exact readValue_fields rfl nofun hread

end Fields

theorem Lossless.readsBack (h : Lossless d) : ReadsBack d := by
  induction h with
  | null => exact readsBack_null
  | bool b => exact readsBack_bool b
  | int hlimit => exact readsBack_int hlimit
  | text s => exact readsBack_text s
  | list _ ih => exact readsBack_list ih
  | object hkeys _ ih => exact readsBack_object hkeys ih

/-- A written text is read as its document; a line feed may follow. -/
theorem read_write (h : Lossless d) : read (write d ++ "\n") = .ok d := by
  have hback := h.readsBack
  have hfuel : (write d).toList.length ≤ 2 * (write d ++ "\n").toList.length + 2 := by
    simp only [String.toList_append, List.length_append]
    omega
  have hend : EndsNumeral ['\n'] := endsNumeral_cons (by decide) []
  have hread := hback.reads hfuel hend
  have hskip := skipSpace_of_starts hback.starts ['\n']
  have htext : (write d ++ "\n").toList = (write d).toList ++ ['\n'] := by simp
  rw [htext] at hread
  simp only [read, htext, hskip, hread]
  rfl

end Values

end ObjcAtlas.Document
