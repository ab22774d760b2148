import Mathlib.Data.List.Basic
import Mathlib.Data.List.TakeWhile
import ObjcAtlas.Text.Basic

/-! Trimming and cutting a text, told by how the text is put together: what is taken off at both ends and what stays,
and which pieces stand between the separators. -/
namespace ObjcAtlas.Text

section Spans
variable {p : Char → Bool} {l r : List Char}

theorem takeWhile_append_of_head (hl : ∀ c ∈ l, p c = true) (hr : ∀ c, r.head? = some c → p c = false) :
    (l ++ r).takeWhile p = l := by
  rw [List.takeWhile_append_of_pos hl]
  cases r with
  | nil => simp
  | cons c cs => simp [hr c rfl]

theorem dropWhile_append_of_head (hl : ∀ c ∈ l, p c = true) (hr : ∀ c, r.head? = some c → p c = false) :
    (l ++ r).dropWhile p = r := by
  rw [List.dropWhile_append_of_pos hl]
  cases r with
  | nil => rfl
  | cons c cs => simp [hr c rfl]

/-! A text is cut before the first of some character. -/
variable {a : Char}

theorem forall_bne_iff : (∀ c ∈ l, (c != a) = true) ↔ a ∉ l := by
  simp only [bne_iff_ne]
  exact List.forall_mem_ne'

theorem takeWhile_bne_append (hl : a ∉ l) (hr : ∀ c, r.head? = some c → c = a) : (l ++ r).takeWhile (· != a) = l := by
  apply takeWhile_append_of_head (forall_bne_iff.mpr hl)
  intro c hc
  simp [hr c hc]

theorem dropWhile_bne_append (hl : a ∉ l) (hr : ∀ c, r.head? = some c → c = a) : (l ++ r).dropWhile (· != a) = r := by
  apply dropWhile_append_of_head (forall_bne_iff.mpr hl)
  intro c hc
  simp [hr c hc]

theorem exists_append_bne (a : Char) (cs : List Char) :
    ∃ l r, cs = l ++ r ∧ a ∉ l ∧ ∀ c, r.head? = some c → c = a := by
  refine ⟨cs.takeWhile (· != a), cs.dropWhile (· != a), List.takeWhile_append_dropWhile.symm, ?_, ?_⟩
  · exact fun hm => absurd (List.mem_takeWhile_imp hm) (by simp)
  · intro c hc
    have hnot := List.head?_dropWhile_not (· != a) cs
    rw [hc] at hnot
    simpa using hnot

end Spans

section Trimming
variable {p q : Char → Bool} {l m r : List Char} {c : Char}

theorem trimEnd_of_all (hr : ∀ c ∈ r, p c = true) : trimEnd p r = [] := by
  induction r with
  | nil => rfl
  | cons c r ih =>
    obtain ⟨hc, hr⟩ := List.forall_mem_cons.mp hr
    simp [trimEnd, hc, ih hr]

theorem trimEnd_append_of_all (hr : ∀ c ∈ r, p c = true) (l : List Char) : trimEnd p (l ++ r) = trimEnd p l := by
  induction l with
  | nil => exact trimEnd_of_all hr
  | cons c l ih => rw [List.cons_append, trimEnd, ih, trimEnd]

theorem trimEnd_cons (hc : p c = false) (r : List Char) : trimEnd p (c :: r) = c :: trimEnd p r := by
  rw [trimEnd]
  cases trimEnd p r with
  | nil => simp [hc]
  | cons d ds => rfl

/-- Nothing is taken off before a character that stays. -/
theorem trimEnd_append_cons (hc : p c = false) (l r : List Char) :
    trimEnd p (l ++ c :: r) = l ++ c :: trimEnd p r := by
  induction l with
  | nil => exact trimEnd_cons hc r
  | cons d l ih =>
    rw [List.cons_append, trimEnd, ih]
    cases l <;> rfl

theorem dropWhile_append_cons (hc : p c = false) (l r : List Char) :
    (l ++ c :: r).dropWhile p = l.dropWhile p ++ c :: r := by
  induction l with
  | nil => simp [hc]
  | cons d l ih =>
    cases hd : p d with
    | false => simp [hd]
    | true => simp [hd, ih]

/-- Around a character that stays the two ends are trimmed apart from each other. -/
theorem trim_append_cons (hc : p c = false) (l r : List Char) :
    trim p (l ++ c :: r) = l.dropWhile p ++ c :: trimEnd p r := by
  rw [trim, dropWhile_append_cons hc, trimEnd_append_cons hc]

theorem trim_append (hl : ∀ c ∈ l, p c = true) (hr : ∀ c ∈ r, p c = true) (m : List Char) :
    trim p (l ++ m ++ r) = trim p m := by
  rw [List.append_assoc, trim, List.dropWhile_append_of_pos hl, List.dropWhile_append]
  cases hm : m.dropWhile p with
  | nil =>
    have hnil : r.dropWhile p = [] := List.dropWhile_eq_nil_iff.mpr hr
    simp [hnil, trim, hm]
  | cons d ds => simpa [trim, hm] using trimEnd_append_of_all hr (d :: ds)

theorem exists_trimEnd (p : Char → Bool) (cs : List Char) :
    (∃ r, cs = trimEnd p cs ++ r ∧ ∀ c ∈ r, p c = true) ∧ ∀ c, (trimEnd p cs).getLast? = some c → p c = false := by
  induction cs with
  | nil => exact ⟨⟨[], rfl, nofun⟩, nofun⟩
  | cons c cs ih =>
    obtain ⟨⟨r, he, hr⟩, hlast⟩ := ih
    rw [trimEnd]
    cases ht : trimEnd p cs with
    | nil =>
      rw [ht, List.nil_append] at he
      subst he
      cases hc : p c with
      | false => exact ⟨⟨cs, by simp, hr⟩, by simpa using hc⟩
      | true => exact ⟨⟨c :: cs, by simp, List.forall_mem_cons.mpr ⟨hc, hr⟩⟩, by simp⟩
    | cons d ds =>
      rw [ht] at he hlast
      exact ⟨⟨r, by simpa using he, hr⟩, by simpa using hlast⟩

/-- What is trimmed is the text without characters at both ends that satisfy the condition. -/
theorem exists_trim (p : Char → Bool) (cs : List Char) :
    ∃ l r, cs = l ++ trim p cs ++ r ∧ (∀ c ∈ l, p c = true) ∧ ∀ c ∈ r, p c = true := by
  obtain ⟨⟨r, he, hr⟩, -⟩ := exists_trimEnd p (cs.dropWhile p)
  refine ⟨cs.takeWhile p, r, ?_, fun c hc => List.mem_takeWhile_imp hc, hr⟩
  rw [trim, List.append_assoc, ← he, List.takeWhile_append_dropWhile]

theorem of_getLast?_trim {cs : List Char} (h : (trim p cs).getLast? = some c) : p c = false :=
  (exists_trimEnd p (cs.dropWhile p)).2 c h

theorem of_head?_trim {cs : List Char} (h : (trim p cs).head? = some c) : p c = false := by
  obtain ⟨⟨r, he, -⟩, -⟩ := exists_trimEnd p (cs.dropWhile p)
  have hhead : (cs.dropWhile p).head? = some c := by
    rw [trim] at h
    rw [he, List.head?_append, h, Option.some_or]
  have hnot := List.head?_dropWhile_not p cs
  rwa [hhead] at hnot

/-- A text with nothing to take off at its ends stays as it is. -/
theorem trim_of_ends (hhead : ∀ c, m.head? = some c → p c = false) (hlast : ∀ c, m.getLast? = some c → p c = false) :
    trim p m = m := by
  cases m with
  | nil => rfl
  | cons c cs =>
    rw [trim, List.dropWhile_cons_of_neg (by simp [hhead c rfl])]
    obtain ⟨ds, d, hd⟩ := (List.eq_nil_or_concat' (c :: cs)).resolve_left (List.cons_ne_nil _ _)
    rw [hd] at hlast ⊢
    rw [trimEnd_append_cons (hlast d (by simp)), trimEnd_nil]

/-- A wider trimming undoes a narrower one. -/
theorem trim_trim (h : ∀ c, p c = true → q c = true) (cs : List Char) : trim q (trim p cs) = trim q cs := by
  obtain ⟨l, r, he, hl, hr⟩ := exists_trim p cs
  conv => rhs; rw [he]
  exact (trim_append (fun c hc => h c (hl c hc)) (fun c hc => h c (hr c hc)) _).symm

end Trimming

section Cutting
variable {sep : Char} {l r : List Char}

theorem fields_of_not_mem {cs : List Char} (h : sep ∉ cs) : fields sep cs = [cs] := by
  induction cs with
  | nil => rfl
  | cons c cs ih =>
    obtain ⟨hc, hcs⟩ := List.ne_and_not_mem_of_not_mem_cons h
    rw [fields, if_neg (Ne.symm hc), ih hcs]

/-- Texts without a separator are told by where it follows them. -/
theorem append_separator_inj {b c r s : List Char} (hb : sep ∉ b) (hc : sep ∉ c)
    (h : b ++ sep :: r = c ++ sep :: s) : b = c ∧ r = s := by
  induction b generalizing c with
  | nil =>
    cases c with
    | nil => exact ⟨rfl, (List.cons.inj h).2⟩
    | cons a c =>
      obtain rfl := (List.cons.inj h).1
      exact absurd List.mem_cons_self hc
  | cons a b ih =>
    cases c with
    | nil =>
      obtain rfl := (List.cons.inj h).1
      exact absurd List.mem_cons_self hb
    | cons a' c =>
      obtain ⟨rfl, ht⟩ := List.cons.inj h
      obtain ⟨rfl, hr⟩ := ih (fun hm => hb (List.mem_cons_of_mem a hm)) (fun hm => hc (List.mem_cons_of_mem a hm)) ht
      exact ⟨rfl, hr⟩

theorem fields_append_cons (sep : Char) (l r : List Char) :
    fields sep (l ++ sep :: r) = fields sep l ++ fields sep r := by
  induction l with
  | nil => simp [fields]
  | cons c l ih =>
    rw [List.cons_append, fields, fields]
    by_cases hc : c = sep
    · rw [if_pos hc, if_pos hc, ih, List.cons_append]
    · rw [if_neg hc, if_neg hc, ih]
      cases hf : fields sep l with
      | nil => exact absurd hf (fields_ne_nil sep l)
      | cons f fs => rfl

theorem linesKeepingEnds_append_cons (hl : '\n' ∉ l) (r : List Char) :
    linesKeepingEnds (l ++ '\n' :: r) = (l ++ ['\n']) :: linesKeepingEnds r := by
  induction l with
  | nil => simp [linesKeepingEnds]
  | cons c l ih =>
    obtain ⟨hc, hl⟩ := List.ne_and_not_mem_of_not_mem_cons hl
    simp [linesKeepingEnds, Ne.symm hc, ih hl]

theorem linesKeepingEnds_of_not_mem (hl : '\n' ∉ l) : linesKeepingEnds l = if l = [] then [] else [l] := by
  induction l with
  | nil => rfl
  | cons c l ih =>
    obtain ⟨hc, hl⟩ := List.ne_and_not_mem_of_not_mem_cons hl
    rw [linesKeepingEnds, if_neg (Ne.symm hc), ih hl]
    cases l <;> rfl

theorem mem_joinWith {sepText : String} {c : Char} (hc : c ∉ sepText.toList) {pieces : List String} :
    c ∈ (joinWith sepText pieces).toList ↔ ∃ s ∈ pieces, c ∈ s.toList := by
  fun_induction joinWith sepText pieces with
  | case1 => simp
  | case2 s => simp
  | case3 s rest _ ih => simp [hc, ih]

theorem fields_joinWith {sepText : String} (hs : sepText.toList = [sep]) {pieces : List String} (hne : pieces ≠ [])
    (h : ∀ s ∈ pieces, sep ∉ s.toList) : fields sep (joinWith sepText pieces).toList = pieces.map String.toList := by
  fun_induction joinWith sepText pieces with
  | case1 => exact absurd rfl hne
  | case2 s => exact fields_of_not_mem (h s List.mem_cons_self)
  | case3 s rest hrest ih =>
    obtain ⟨hs', h⟩ := List.forall_mem_cons.mp h
    rw [String.toList_append, String.toList_append, hs, List.append_assoc, List.singleton_append, fields_append_cons,
      fields_of_not_mem hs', ih hrest h]
    rfl

/-- Pieces without the first character of what stands between them are told by the text that they make up. -/
theorem joinWith_inj {sepText : String} {tail : List Char} {ls ls' : List String} (hsep : sepText.toList = sep :: tail)
    (hne : ls ≠ []) (hne' : ls' ≠ []) (hls : ∀ l ∈ ls, sep ∉ l.toList) (hls' : ∀ l ∈ ls', sep ∉ l.toList)
    (h : joinWith sepText ls = joinWith sepText ls') : ls = ls' := by
  have hcons {l : String} {ls : List String} (hne : ls ≠ []) :
      (joinWith sepText (l :: ls)).toList = l.toList ++ sep :: (tail ++ (joinWith sepText ls).toList) := by
    obtain ⟨m, ms, rfl⟩ := List.exists_cons_of_ne_nil hne
    simp [joinWith, hsep]
  induction ls generalizing ls' with
  | nil => exact absurd rfl hne
  | cons l ls ih =>
    obtain ⟨l', ls', rfl⟩ := List.exists_cons_of_ne_nil hne'
    obtain ⟨hl, hrest⟩ := List.forall_mem_cons.mp hls
    obtain ⟨hl', hrest'⟩ := List.forall_mem_cons.mp hls'
    rw [← String.toList_inj] at h
    rcases eq_or_ne ls [] with rfl | hne
    · rcases eq_or_ne ls' [] with rfl | hne'
      · exact congrArg ([·]) (String.toList_inj.mp h)
      · rw [hcons hne'] at h
        exact absurd hl (by simp [show l.toList = _ from h])
    · rcases eq_or_ne ls' [] with rfl | hne'
      · rw [hcons hne] at h
        exact absurd hl' (by simp [show l'.toList = _ from h.symm])
      · rw [hcons hne, hcons hne'] at h
        obtain ⟨he, hmore⟩ := append_separator_inj hl hl' h
        have hlists := ih hne hne' hrest hrest' (String.toList_inj.mp (List.append_cancel_left hmore))
        rw [String.toList_inj.mp he, hlists]

/-- A piece reaches from one separator, or the start of the text, to the next, or its end. -/
structure IsPiece (sep : Char) (cs piece : List Char) : Prop where
  not_mem : sep ∉ piece
  exists_eq : ∃ l r, cs = l ++ piece ++ r ∧ (∀ c, l.getLast? = some c → c = sep) ∧ ∀ c, r.head? = some c → c = sep

theorem isPiece_self {cs : List Char} (h : sep ∉ cs) : IsPiece sep cs cs := ⟨h, [], [], by simp, by simp, by simp⟩

theorem IsPiece.mem_fields {cs piece : List Char} (h : IsPiece sep cs piece) : piece ∈ fields sep cs := by
  obtain ⟨hnot, l, r, rfl, hl, hr⟩ := h
  have hpiece : piece ∈ fields sep (piece ++ r) := by
    cases r with
    | nil => simp [fields_of_not_mem hnot]
    | cons c r =>
      obtain rfl := hr c rfl
      simp [fields_append_cons, fields_of_not_mem hnot]
  rw [List.append_assoc]
  rcases List.eq_nil_or_concat' l with rfl | ⟨l, c, rfl⟩
  · exact hpiece
  · obtain rfl : c = sep := hl c (by simp)
    rw [List.append_assoc, List.singleton_append, fields_append_cons]
    exact List.mem_append_right _ hpiece

-- the text after the first separator is shorter, so the induction is on the length
theorem isPiece_of_mem_fields {cs piece : List Char} (h : piece ∈ fields sep cs) : IsPiece sep cs piece := by
  induction hn : cs.length using Nat.strong_induction_on generalizing cs with
  | _ n ih =>
    by_cases hc : sep ∈ cs
    · obtain ⟨l, r, rfl, hl⟩ := List.eq_append_cons_of_mem hc
      rw [fields_append_cons, fields_of_not_mem hl, List.singleton_append, List.mem_cons] at h
      rcases h with rfl | h
      · exact ⟨hl, [], sep :: r, by simp, by simp, by simp⟩
      · have hlt : r.length < n := by
          simp only [List.length_append, List.length_cons] at hn
          omega
        obtain ⟨hnot, l', r', hr, hl', hr'⟩ := ih r.length hlt h rfl
        refine ⟨hnot, l ++ sep :: l', r', by simp [hr], ?_, hr'⟩
        intro c hlast
        cases l' with
        | nil => simpa using hlast.symm
        | cons d l' => exact hl' c (by simpa using hlast)
    · rw [fields_of_not_mem hc, List.mem_singleton] at h
      subst h
      exact isPiece_self hc

theorem mem_fields_iff {cs piece : List Char} : piece ∈ fields sep cs ↔ IsPiece sep cs piece :=
  ⟨isPiece_of_mem_fields, IsPiece.mem_fields⟩

end Cutting

end ObjcAtlas.Text
