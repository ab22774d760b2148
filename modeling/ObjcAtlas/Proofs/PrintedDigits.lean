import Mathlib.Data.List.Forall2
import ObjcAtlas.Numeral

/-! Digits as they are printed, read again. A number may be spelled with zeros before its digits and with small or
capital digits; whatever the spelling, the number that is read is the one that was printed. -/
namespace ObjcAtlas.Numeral
variable {base n v d k : Nat} {c : Char} {cs : List Char} {ds : List Nat}

/-- The digit that is printed, or its capital. -/
def SameDigit (c printed : Char) : Prop := c = printed ∨ c = printed.toUpper

/-- `cs` are the digits of `n`, each small or capital, with any number of zeros before them. -/
def Spells (base n : Nat) (cs : List Char) : Prop :=
  ∃ zeros, List.Forall₂ SameDigit cs (List.replicate zeros '0' ++ Nat.toDigits base n)

section Values

/-- The number with these digits after those of `v`. -/
def valueAfter (base v : Nat) (ds : List Nat) : Nat := ds.foldl (fun v d => v * base + d) v

@[simp] theorem valueAfter_nil (base v : Nat) : valueAfter base v [] = v := rfl

@[simp] theorem valueAfter_cons (base v d : Nat) (ds : List Nat) :
    valueAfter base v (d :: ds) = valueAfter base (v * base + d) ds := rfl

@[simp] theorem valueAfter_append (base v : Nat) (ds es : List Nat) :
    valueAfter base v (ds ++ es) = valueAfter base (valueAfter base v ds) es := List.foldl_append

@[simp] theorem valueAfter_zeros (base k : Nat) : valueAfter base 0 (List.replicate k 0) = 0 := by
  induction k with
  | zero => rfl
  | succ k ih => simp [List.replicate_succ, ih]

/-- The digits of a number have it as their value. -/
theorem exists_digits (hb : 1 < base) (n : Nat) :
    ∃ ds : List Nat, (∀ d ∈ ds, d < base) ∧ Nat.toDigits base n = ds.map Nat.digitChar ∧ valueAfter base 0 ds = n := by
  induction n using Nat.strongRecOn with
  | _ n ih =>
    by_cases hn : n < base
    · exact ⟨[n], by simp [hn], by simp [Nat.toDigits_of_lt_base hn], by simp⟩
    · have hpos : 0 < n := by omega
      obtain ⟨ds, hlt, hprint, hvalue⟩ := ih (n / base) (Nat.div_lt_self hpos hb)
      have hmod : n % base < base := Nat.mod_lt n (by omega)
      refine ⟨ds ++ [n % base], ?_, ?_, ?_⟩
      · simpa [or_imp, forall_and] using ⟨hlt, hmod⟩
      · rw [Nat.toDigits_of_base_le hb (by omega), hprint, List.map_append, List.map_singleton]
      · simp [hvalue, Nat.div_add_mod']

end Values

section Characters

/-- A digit has the same value in every base that has it. -/
theorem digitValue?_eq_some_iff (hb : base ≤ 16) :
    digitValue? base c = some d ↔ digitValue? 16 c = some d ∧ d < base := by
  unfold digitValue?
  generalize (if '0' ≤ c ∧ c ≤ '9' then _ else _ : Nat) = v
  dsimp only
  split_ifs <;> simp <;> omega

theorem digitValue?_of_sameDigit (hb : base ≤ 16) (hd : d < base) (h : SameDigit c (Nat.digitChar d)) :
    digitValue? base c = some d := by
  have hall : ∀ d < 16, digitValue? 16 (Nat.digitChar d) = some d ∧ digitValue? 16 (Nat.digitChar d).toUpper = some d := by
    decide
  obtain ⟨hsmall, hcapital⟩ := hall d (by omega)
  rw [digitValue?_eq_some_iff hb]
  rcases h with rfl | rfl
  · exact ⟨hsmall, hd⟩
  · exact ⟨hcapital, hd⟩

/-- A digit is an ASCII letter or digit. -/
theorem toNat_of_digitValue? (hb : base ≤ 16) (h : digitValue? base c = some d) : 48 ≤ c.toNat ∧ c.toNat ≤ 102 := by
  have hle : ∀ a b : Char, a ≤ b ↔ a.toNat ≤ b.toNat := fun _ _ => Iff.rfl
  simp only [digitValue?, hle, Char.reduceToNat] at h
  split_ifs at h <;> omega

theorem canonicalChar_of_digitValue? (hb : base ≤ 16) (h : digitValue? base c = some d) : canonicalChar c = c := by
  have hc := toNat_of_digitValue? hb h
  exact if_pos (by omega)

theorem not_isPadding_of_digitValue? (hb : base ≤ 16) (h : digitValue? base c = some d) : isPadding c = false := by
  have hc := toNat_of_digitValue? hb h
  have hblank : c ≠ ' ' := by
    rintro rfl
    simp at hc
  simp [isPadding, hblank]
  omega

end Characters

section Scanning

/-- `cs` are digits in this base, of the values `ds`. -/
def HasDigits (base : Nat) (cs : List Char) (ds : List Nat) : Prop :=
  List.Forall₂ (fun c d => digitValue? base c = some d) cs ds

theorem HasDigits.exists_value (h : HasDigits base cs ds) : ∀ c ∈ cs, ∃ d, digitValue? base c = some d := by
  induction h with
  | nil => simp
  | cons hd _ ih => exact List.forall_mem_cons.mpr ⟨⟨_, hd⟩, ih⟩

theorem Spells.exists_values (hb : 1 < base) (hb' : base ≤ 16) (h : Spells base n cs) :
    ∃ ds, HasDigits base cs ds ∧ valueAfter base 0 ds = n := by
  obtain ⟨zeros, h⟩ := h
  obtain ⟨ds, hlt, hprint, hvalue⟩ := exists_digits hb n
  have hzeros : List.replicate zeros '0' = (List.replicate zeros 0).map Nat.digitChar := by simp
  have hall : ∀ d ∈ List.replicate zeros 0 ++ ds, d < base := by
    intro d hd
    rcases List.mem_append.mp hd with hd | hd
    · have := List.eq_of_mem_replicate hd
      omega
    · exact hlt d hd
  rw [hprint, hzeros, ← List.map_append, List.forall₂_map_right_iff, List.forall₂_iff_zip] at h
  refine ⟨List.replicate zeros 0 ++ ds, List.forall₂_iff_zip.mpr ⟨h.1, fun {c d} hm => ?_⟩, by simp [hvalue]⟩
  exact digitValue?_of_sameDigit hb' (hall d (List.of_mem_zip hm).2) (h.2 hm)

theorem Spells.ne_nil (h : Spells base n cs) : cs ≠ [] := by
  rintro rfl
  obtain ⟨zeros, h⟩ := h
  simp at h

theorem scan_cons (hb : base ≤ 16) (h : digitValue? base c = some d) (v k : Nat) (cs : List Char) :
    scan base v k (c :: cs) = scan base (v * base + d) (k + 1) cs := by
  have hc : c ≠ '_' := by
    rintro rfl
    simp [digitValue?] at h
    omega
  rw [scan.eq_def]
  split
  · contradiction
  · simp_all
  · simp_all

theorem scan_digits (hb : base ≤ 16) (h : HasDigits base cs ds) (v k : Nat) :
    scan base v k cs = some (valueAfter base v ds, k + cs.length, []) := by
  induction h generalizing v k with
  | nil => rfl
  | cons hd _ ih => rw [scan_cons hb hd, ih, valueAfter_cons, List.length_cons, Nat.add_assoc, Nat.add_comm 1]

/-- The digits of a number are read to their end. -/
theorem scanDigits_spelled (hb : 1 < base) (hb' : base ≤ 16) (h : Spells base n cs) :
    scanDigits base cs = some (n, cs.length, []) := by
  obtain ⟨ds, hds, hvalue⟩ := h.exists_values hb hb'
  cases hds with
  | nil => exact absurd rfl h.ne_nil
  | cons hd hds =>
    simp only [valueAfter_cons, Nat.zero_mul, Nat.zero_add] at hvalue
    simp only [scanDigits, hd, scan_digits hb' hds, hvalue, List.length_cons, Nat.add_comm 1]

end Scanning

section Reading
variable {radix : Radix}

/-- A numeral that starts with a digit has no sign. -/
theorem signed_of_magnitude (hcs : ∀ c ∈ cs, ∃ d, digitValue? 16 c = some d) (h : magnitude radix cs = some (n, [])) :
    signed radix cs = some (n : Int) := by
  rw [signed]
  · simp [h]
  · rintro r rfl
    simp [digitValue?] at hcs
  · rintro r rfl
    simp [digitValue?] at hcs

theorem read?_of_magnitude (hcs : ∀ c ∈ cs, ∃ d, digitValue? 16 c = some d) (h : magnitude radix cs = some (n, [])) :
    read? radix (String.ofList cs) = some (n : Int) := by
  have hcanonical : cs.map canonicalChar = cs := by
    refine (List.map_congr_left fun c hc => ?_).trans (List.map_id cs)
    obtain ⟨d, hd⟩ := hcs c hc
    exact canonicalChar_of_digitValue? (Nat.le_refl 16) hd
  have hpadding : cs.dropWhile isPadding = cs := by
    cases cs with
    | nil => rfl
    | cons c cs =>
      obtain ⟨d, hd⟩ := hcs c List.mem_cons_self
      exact List.dropWhile_cons_of_neg (by simp [not_isPadding_of_digitValue? (Nat.le_refl 16) hd])
  rw [read?, String.toList_ofList, hcanonical, hpadding, signed_of_magnitude hcs h]

theorem Spells.digitValue?_of_mem (hb : 1 < base) (hb' : base ≤ 16) (h : Spells base n cs) :
    ∀ c ∈ cs, ∃ d, digitValue? 16 c = some d := by
  obtain ⟨ds, hds, -⟩ := h.exists_values hb hb'
  intro c hc
  obtain ⟨d, hd⟩ := hds.exists_value c hc
  exact ⟨d, ((digitValue?_eq_some_iff hb').mp hd).1⟩

/-- A spelling in base ten is read as its number, if the length limit admits it. -/
theorem read?_decimal (h : Spells 10 n cs) (hlimit : cs.length ≤ decimalLimit) :
    read? .decimal (String.ofList cs) = some (n : Int) := by
  have hdigits := h.digitValue?_of_mem (by decide) (by decide)
  apply read?_of_magnitude hdigits
  rw [magnitude, decimalMagnitude, scanDigits_spelled (by decide) (by decide) h]
  exact if_pos hlimit

/-- A spelling in base sixteen is read as its number; it has no base mark. -/
theorem read?_hexadecimal (h : Spells 16 n cs) : read? .hexadecimal (String.ofList cs) = some (n : Int) := by
  have hdigits := h.digitValue?_of_mem (by decide) (by decide)
  apply read?_of_magnitude hdigits
  have hscan := scanDigits_spelled (by decide) (by decide) h
  have hmagnitude : magnitude .hexadecimal cs = (scanDigits 16 cs).map fun r => (r.1, r.2.2) := by
    unfold magnitude
    split
    · cases ‹Radix.hexadecimal = Radix.decimal›
    · next m rest _ =>
      have hm : ¬ (m = 'x' ∨ m = 'X') := by
        rintro (rfl | rfl) <;> simp [digitValue?] at hdigits
      exact if_neg hm
    · rfl
    · cases ‹Radix.hexadecimal = Radix.marked›
    · cases ‹Radix.hexadecimal = Radix.marked›
  rw [hmagnitude, hscan]
  rfl

end Reading

end ObjcAtlas.Numeral
