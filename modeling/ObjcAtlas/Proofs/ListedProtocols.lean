import Mathlib.Data.List.Forall2
import ObjcAtlas.Proofs.PointedClasses

/-! Protocols listed in angle brackets. Any type with a bracket is read for its first list, wherever the bracket comes
from, and gives the identifiers between its commas; with the classes that pointers are read for this is all that types
name. -/
namespace ObjcAtlas.TypeEncoding

def isPadding (c : Char) : Bool := c == ' ' || c == '<' || c == '>'

def isQuoteOrAt (c : Char) : Bool := c == '@' || c == '"'

/-- A name with blanks and brackets around it. -/
def Padded (piece n : List Char) : Prop :=
  ∃ l r, piece = l ++ n ++ r ∧ (∀ c ∈ l, isPadding c = true) ∧ ∀ c ∈ r, isPadding c = true

/-- An identifier between two commas of a list. -/
def Listed (inside n : List Char) : Prop :=
  Text.isIdentifier n = true ∧ ∃ piece, Text.IsPiece ',' inside piece ∧ Padded piece n

/-- The first list in angle brackets, up to the bracket that closes it or the end. -/
def IsFirstList (cs inside : List Char) : Prop :=
  ∃ before after, cs = before ++ '<' :: (inside ++ after) ∧ '<' ∉ before ∧ '>' ∉ inside ∧
    ∀ c, after.head? = some c → c = '>'

section Pieces
variable {piece n : List Char}

theorem not_isPadding_of_isIdentifier (hn : Text.isIdentifier n = true) : ∀ c ∈ n, isPadding c = false := by
  have hnot : ∀ a ∈ [' ', '<', '>'], a ∉ n := by
    rw [← List.forall_iff_forall_mem]
    refine ⟨?_, ?_, ?_⟩
    all_goals exact Text.not_mem_of_isIdentifier hn (by decide) (by decide)
  intro c hc
  rw [Bool.eq_false_iff]
  intro hp
  simp only [isPadding, Bool.or_eq_true, beq_iff_eq] at hp
  exact hnot c (by simpa [or_assoc] using hp) hc

theorem protocolName?_eq_some_iff : protocolName? piece = some n ↔ Text.isIdentifier n = true ∧ Padded piece n := by
  have hname : protocolName? piece = if (Text.trim isPadding piece).contains '*' ||
      !Text.isIdentifier (Text.trim isPadding piece) then none else some (Text.trim isPadding piece) := rfl
  rw [hname]
  constructor
  · intro h
    split at h
    · cases h
    · next hkeep =>
      obtain rfl := Option.some.inj h
      simp only [Bool.or_eq_true, Bool.not_eq_true', not_or, Bool.not_eq_false] at hkeep
      exact ⟨hkeep.2, Text.exists_trim isPadding piece⟩
  · rintro ⟨hn, l, r, rfl, hl, hr⟩
    have hpad := not_isPadding_of_isIdentifier hn
    have htrim : Text.trim isPadding (l ++ n ++ r) = n := by
      rw [Text.trim_append hl hr]
      exact Text.trim_of_ends (fun c hc => hpad c (List.mem_of_head? hc)) fun c hc => hpad c (List.mem_of_getLast? hc)
    obtain ⟨-, -, -, hstar, -⟩ := not_mem_identifier hn
    rw [htrim, if_neg]
    simp [hn, hstar]

theorem filterMap_protocolName? {pieces names : List (List Char)} (h : List.Forall₂ Padded pieces names)
    (hn : ∀ n ∈ names, Text.isIdentifier n = true) : pieces.filterMap protocolName? = names := by
  induction h with
  | nil => rfl
  | cons hp _ ih =>
    obtain ⟨hn, hns⟩ := List.forall_mem_cons.mp hn
    rw [List.filterMap_cons_some (protocolName?_eq_some_iff.mpr ⟨hn, hp⟩), ih hns]

/-- The part of a text that is cut into names. -/
theorem protocolNames_append {inside after : List Char} (hi : '>' ∉ inside) (ha : ∀ c, after.head? = some c → c = '>') :
    protocolNames (inside ++ after) = (Text.fields ',' inside).filterMap protocolName? := by
  rw [protocolNames, Text.takeWhile_bne_append hi ha]

theorem mem_protocolNames_append {inside after : List Char} (hi : '>' ∉ inside)
    (ha : ∀ c, after.head? = some c → c = '>') : n ∈ protocolNames (inside ++ after) ↔ Listed inside n := by
  rw [protocolNames_append hi ha, List.mem_filterMap]
  simp only [Text.mem_fields_iff, protocolName?_eq_some_iff]
  constructor
  · rintro ⟨piece, hpiece, hn, hpad⟩
    exact ⟨hn, piece, hpiece, hpad⟩
  · rintro ⟨hn, piece, hpiece, hpad⟩
    exact ⟨piece, hpiece, hn, hpad⟩

theorem mem_protocolNames_iff {cs : List Char} : n ∈ protocolNames cs ↔
    ∃ inside after, cs = inside ++ after ∧ '>' ∉ inside ∧ (∀ c, after.head? = some c → c = '>') ∧ Listed inside n := by
  constructor
  · intro h
    obtain ⟨inside, after, rfl, hi, ha⟩ := Text.exists_append_bne '>' cs
    exact ⟨inside, after, rfl, hi, ha, (mem_protocolNames_append hi ha).mp h⟩
  · rintro ⟨inside, after, rfl, hi, ha, h⟩
    exact (mem_protocolNames_append hi ha).mpr h

end Pieces

/-- What stays of the start of a text in quotes and stars. -/
def unwrappedStart (cs : List Char) : List Char := (cs.dropWhile isQuoteOrAt).dropWhile isBlankOrStar

/-- What stays of its end. -/
def unwrappedEnd (cs : List Char) : List Char := Text.trimEnd isBlankOrStar (Text.trimEnd isQuoteOrAt cs)

def rootName : List Char := "NSObject".toList

section Brackets
variable {before n : List Char}

/-- A bracket stays, so the text before it and the text after it are unwrapped apart from each other. -/
theorem unwrapped_append (before rest : List Char) :
    unwrapped (before ++ '<' :: rest) = unwrappedStart before ++ '<' :: unwrappedEnd rest := by
  have hquote : Text.trim isQuoteOrAt (before ++ '<' :: rest) = _ := Text.trim_append_cons (by decide) before rest
  rw [show unwrapped (before ++ '<' :: rest) =
    Text.trim isBlankOrStar (Text.trim isQuoteOrAt (before ++ '<' :: rest)) from rfl, hquote]
  exact Text.trim_append_cons (by decide) _ _

theorem unwrapped_subset {cs : List Char} {c : Char} (h : c ∈ unwrapped cs) : c ∈ cs := by
  have htrim : ∀ (p : Char → Bool) (ds : List Char), c ∈ Text.trim p ds → c ∈ ds := by
    intro p ds hc
    obtain ⟨l, r, he, -, -⟩ := Text.exists_trim p ds
    rw [he]
    simp [hc]
  exact htrim _ _ (htrim _ _ h)

theorem not_mem_unwrappedStart (hb : '<' ∉ before) : '<' ∉ unwrappedStart before := by
  intro h
  exact hb ((List.dropWhile_sublist _).subset ((List.dropWhile_sublist _).subset h))

theorem afterBracket?_append (hb : '<' ∉ before) (rest : List Char) :
    afterBracket? (before ++ '<' :: rest) = some rest := by
  have hdrop : (before ++ '<' :: rest).dropWhile (· != '<') = '<' :: rest :=
    Text.dropWhile_bne_append hb (by simp)
  rw [afterBracket?, hdrop]

theorem afterBracket?_of_not_mem {cs : List Char} (h : '<' ∉ cs) : afterBracket? cs = none := by
  have hdrop : cs.dropWhile (· != '<') = [] := List.dropWhile_eq_nil_iff.mpr (Text.forall_bne_iff.mpr h)
  rw [afterBracket?, hdrop]

theorem qualifiedProtocol?_append (hb : '<' ∉ before) (rest : List Char) :
    qualifiedProtocol? (before ++ '<' :: rest) = if before = rootName then (protocolNames rest).head? else none := by
  have hroot : rootObject = rootName ++ ['<'] := rfl
  have hstart : rootObject.isPrefixOf (before ++ '<' :: rest) = true ↔ before = rootName := by
    rw [List.isPrefixOf_iff_prefix, hroot]
    constructor
    · rintro ⟨t, ht⟩
      rw [List.append_assoc, List.singleton_append] at ht
      exact (Text.append_separator_inj (by decide) hb ht).1.symm
    · rintro rfl
      exact ⟨rest, by simp⟩
  rw [qualifiedProtocol?]
  by_cases h : before = rootName
  · have hdrop : (before ++ '<' :: rest).drop rootObject.length = rest := by
      rw [h, List.append_cons, ← hroot, List.drop_left]
    rw [if_pos (hstart.mpr h), if_pos h, hdrop]
  · rw [if_neg (fun hp => h (hstart.mp hp)), if_neg h]

/-- The names of the first list, the first of them twice if the list qualifies the root class. -/
theorem protocolReferences_append (hb : '<' ∉ before) (rest : List Char) :
    protocolReferences (before ++ '<' :: rest) =
      (if unwrappedStart before = rootName then (protocolNames (unwrappedEnd rest)).head? else none).toList ++
        protocolNames (unwrappedEnd rest) := by
  have hb' := not_mem_unwrappedStart hb
  simp only [protocolReferences, unwrapped_append, qualifiedProtocol?_append hb', protocolList,
    afterBracket?_append hb']

theorem protocolReferences_of_not_mem {cs : List Char} (h : '<' ∉ cs) : protocolReferences cs = [] := by
  have hu : '<' ∉ unwrapped cs := fun hm => h (unwrapped_subset hm)
  have hq : qualifiedProtocol? (unwrapped cs) = none := by
    rw [qualifiedProtocol?, if_neg]
    intro hp
    exact hu ((List.isPrefixOf_iff_prefix.mp hp).subset (by decide))
  simp [protocolReferences, hq, protocolList, afterBracket?_of_not_mem hu]

theorem isFirstList_append_iff {inside : List Char} (hb : '<' ∉ before) (rest : List Char) :
    IsFirstList (before ++ '<' :: rest) inside ↔
      ∃ after, rest = inside ++ after ∧ '>' ∉ inside ∧ ∀ c, after.head? = some c → c = '>' := by
  constructor
  · rintro ⟨before', after, he, hb', hi, ha⟩
    exact ⟨after, (Text.append_separator_inj hb hb' he).2, hi, ha⟩
  · rintro ⟨after, rfl, hi, ha⟩
    exact ⟨before, after, rfl, hb, hi, ha⟩

theorem IsFirstList.bracket_mem {cs inside : List Char} (h : IsFirstList (unwrapped cs) inside) : '<' ∈ cs := by
  obtain ⟨before, after, he, -⟩ := h
  apply unwrapped_subset
  simp [he]

theorem mem_protocolReferences_iff {cs : List Char} :
    n ∈ protocolReferences cs ↔ ∃ inside, IsFirstList (unwrapped cs) inside ∧ Listed inside n := by
  by_cases hc : '<' ∈ cs
  · obtain ⟨before, rest, rfl, hb⟩ := List.eq_append_cons_of_mem hc
    have hmem : n ∈ protocolReferences (before ++ '<' :: rest) ↔ n ∈ protocolNames (unwrappedEnd rest) := by
      rw [protocolReferences_append hb, List.mem_append, or_iff_right_iff_imp, Option.mem_toList]
      intro h
      split at h
      · exact List.mem_of_head? h
      · cases h
    rw [hmem, mem_protocolNames_iff, unwrapped_append]
    simp only [isFirstList_append_iff (not_mem_unwrappedStart hb)]
    constructor
    · rintro ⟨inside, after, he, hi, ha, h⟩
      exact ⟨inside, ⟨after, he, hi, ha⟩, h⟩
    · rintro ⟨inside, ⟨after, he, hi, ha⟩, h⟩
      exact ⟨inside, after, he, hi, ha, h⟩
  · rw [protocolReferences_of_not_mem hc]
    constructor
    · exact fun h => absurd h List.not_mem_nil
    · rintro ⟨inside, hlist, -⟩
      exact absurd hlist.bracket_mem hc

end Brackets

/-- A type names a protocol: an identifier in the first list of the text without the quotes and stars around it. -/
def NamesProtocol (type n : String) : Prop :=
  ∃ inside, IsFirstList (unwrapped type.toList) inside ∧ Listed inside n.toList

section References
variable {style : Style} {type n : String}

theorem references_of_bracket (h : '<' ∈ type.toList ∨ '>' ∈ type.toList) :
    references style type = (protocolReferences type.toList).map fun n => .toProtocol (String.ofList n) := by
  rw [references, if_pos (by simpa using h)]

theorem references_of_no_bracket (h : ¬ ('<' ∈ type.toList ∨ '>' ∈ type.toList)) :
    references style type = (classReference? style type.toList).toList.map fun n => .toClass (String.ofList n) := by
  rw [references, if_neg (by simpa using h)]

/-- The classes that types name. -/
theorem toClass_mem_references_iff : .toClass n ∈ references style type ↔
    ¬ ('<' ∈ type.toList ∨ '>' ∈ type.toList) ∧ PointsAt style type.toList n.toList := by
  by_cases h : '<' ∈ type.toList ∨ '>' ∈ type.toList
  · simp [references_of_bracket h, h]
  · rw [references_of_no_bracket h, ← classReference?_eq_some_iff]
    simp [h, ← String.toList_inj]

/-- The protocols that types name. -/
theorem toProtocol_mem_references_iff : .toProtocol n ∈ references style type ↔ NamesProtocol type n := by
  rw [NamesProtocol, ← mem_protocolReferences_iff]
  by_cases h : '<' ∈ type.toList ∨ '>' ∈ type.toList
  · rw [references_of_bracket h]
    simp [← String.toList_inj]
  · rw [references_of_no_bracket h, protocolReferences_of_not_mem (not_or.mp h).1]
    simp

/-- A name with blanks around it. -/
def Spaced (piece n : String) : Prop :=
  ∃ l r, piece.toList = l ++ n.toList ++ r ∧ (∀ c ∈ l, c = ' ') ∧ ∀ c ∈ r, c = ' '

theorem Spaced.padded {piece n : String} (h : Spaced piece n) : Padded piece.toList n.toList := by
  obtain ⟨l, r, he, hl, hr⟩ := h
  refine ⟨l, r, he, ?_, ?_⟩
  · intro c hc
    rw [hl c hc]
    rfl
  · intro c hc
    rw [hr c hc]
    rfl

theorem Spaced.not_mem {piece n : String} (h : Spaced piece n) (hn : Text.isIdentifier n.toList = true) {a : Char}
    (hblank : a ≠ ' ') (hs : Text.isIdentifierStart a = false) (hp : Text.isIdentifierPart a = false) :
    a ∉ piece.toList := by
  obtain ⟨l, r, he, hl, hr⟩ := h
  rw [he, List.mem_append, List.mem_append]
  rintro ((hm | hm) | hm)
  · exact hblank (hl a hm)
  · exact Text.not_mem_of_isIdentifier hn hs hp hm
  · exact hblank (hr a hm)

theorem exists_spaced_of_mem {pieces names : List String} (h : List.Forall₂ Spaced pieces names) {piece : String}
    (hp : piece ∈ pieces) : ∃ n ∈ names, Spaced piece n := by
  induction h with
  | nil => cases hp
  | @cons s n pieces names hs _ ih =>
    rcases List.mem_cons.mp hp with rfl | hp
    · exact ⟨n, List.mem_cons_self, hs⟩
    · obtain ⟨m, hm, h⟩ := ih hp
      exact ⟨m, List.mem_cons_of_mem n hm, h⟩

theorem unwrappedEnd_append_cons (inside tail : List Char) :
    ∃ tail', unwrappedEnd (inside ++ '>' :: tail) = inside ++ '>' :: tail' := by
  have hquote : Text.trimEnd isQuoteOrAt (inside ++ '>' :: tail) = _ := Text.trimEnd_append_cons (by decide) inside tail
  rw [unwrappedEnd, hquote]
  exact ⟨_, Text.trimEnd_append_cons (by decide) inside _⟩

/-- A bracketed list of identifiers is read in full, whatever stands before and after it. -/
theorem references_list (style : Style) {base first : String} {rest pieces : List String} (tail : String)
    (hbase : '<' ∉ base.toList) (hnames : ∀ n ∈ first :: rest, Text.isIdentifier n.toList = true)
    (hpieces : List.Forall₂ Spaced pieces (first :: rest)) :
    references style (base ++ "<" ++ Text.joinWith "," pieces ++ ">" ++ tail) =
      ((if unwrappedStart base.toList = rootName then [first] else []) ++ first :: rest).map .toProtocol := by
  have hpiece : ∀ s ∈ pieces, ∃ n, Text.isIdentifier n.toList = true ∧ Spaced s n := by
    intro s hs
    obtain ⟨n, hn, h⟩ := exists_spaced_of_mem hpieces hs
    exact ⟨n, hnames n hn, h⟩
  have hcomma : ∀ s ∈ pieces, ',' ∉ s.toList := by
    intro s hs
    obtain ⟨n, hn, h⟩ := hpiece s hs
    exact h.not_mem hn (by decide) (by decide) (by decide)
  have hinside : '>' ∉ (Text.joinWith "," pieces).toList := by
    rw [Text.mem_joinWith (by decide)]
    rintro ⟨s, hs, hm⟩
    obtain ⟨n, hn, h⟩ := hpiece s hs
    exact h.not_mem hn (by decide) (by decide) (by decide) hm
  have hne : pieces ≠ [] := by
    rintro rfl
    cases hpieces
  have htype : (base ++ "<" ++ Text.joinWith "," pieces ++ ">" ++ tail).toList =
      base.toList ++ '<' :: ((Text.joinWith "," pieces).toList ++ '>' :: tail.toList) := by simp
  obtain ⟨tail', htail⟩ := unwrappedEnd_append_cons (Text.joinWith "," pieces).toList tail.toList
  have hread : protocolNames ((Text.joinWith "," pieces).toList ++ '>' :: tail') =
      (first :: rest).map String.toList := by
    rw [protocolNames_append hinside (by simp), Text.fields_joinWith rfl hne hcomma]
    apply filterMap_protocolName?
    · rw [List.forall₂_map_left_iff, List.forall₂_map_right_iff]
      exact hpieces.imp fun _ _ => Spaced.padded
    · simpa using hnames
  rw [references_of_bracket (Or.inl (by rw [htype]; simp)), htype, protocolReferences_append hbase, htail, hread]
  split <;> simp [Function.comp_def]

theorem references_of_pointsAt (hl : '<' ∉ type.toList) (hr : '>' ∉ type.toList)
    (h : PointsAt style type.toList n.toList) : references style type = [.toClass n] := by
  rw [references_of_no_bracket (not_or.mpr ⟨hl, hr⟩), classReference?_eq_some_iff.mpr h]
  simp

theorem references_quoted (style : Style) (hn : Text.isIdentifier n.toList = true) :
    references style ("@\"" ++ n ++ "\"") = [.toClass n] := by
  obtain ⟨-, hl, hr, -, -⟩ := not_mem_identifier hn
  have hne := Text.ne_nil_of_isIdentifier hn
  have htype : ("@\"" ++ n ++ "\"").toList = objectEncoding n.toList := by simp [objectEncoding]
  apply references_of_pointsAt
  · simpa using hl
  · simpa using hr
  · rw [htype]
    exact .quoted hne

theorem not_mem_starred {before after : String} {a : Char} (hn : a ∉ n.toList) (hbefore : ∀ c ∈ before.toList, c = ' ')
    (hafter : ∀ c ∈ after.toList, isBlankOrStar c = true) (ha : isBlankOrStar a = false) :
    a ∉ (before ++ n ++ after).toList := by
  rw [String.toList_append, String.toList_append, List.mem_append, List.mem_append]
  rintro ((hm | hm) | hm)
  · rw [hbefore a hm] at ha
    cases ha
  · exact hn hm
  · rw [hafter a hm] at ha
    cases ha

/-- Stars after a name make it a class in a declaration only. -/
theorem references_starred {before after : String} {c : Char} (hn : Text.isIdentifier n.toList = true)
    (hhead : n.toList.head? = some c) (hupper : c.isUpper = true) (hbefore : ∀ c ∈ before.toList, c = ' ')
    (hafter : ∀ c ∈ after.toList, isBlankOrStar c = true) (hstar : '*' ∈ after.toList) :
    references .declaration (before ++ n ++ after) = [.toClass n] ∧
      references .runtime (before ++ n ++ after) = [] := by
  obtain ⟨-, hl, hr, hs, -⟩ := not_mem_identifier hn
  have hl' := not_mem_starred hl hbefore hafter (by decide)
  have hr' := not_mem_starred hr hbefore hafter (by decide)
  have hblank : ' ' ∉ n.toList := Text.not_mem_of_isIdentifier hn (by decide) (by decide)
  have hlast : ∀ a, n.toList.getLast? = some a → isBlankOrStar a = false := by
    intro a ha
    have hm := List.mem_of_getLast? ha
    rw [isBlankOrStar, Bool.or_eq_false_iff, beq_eq_false_iff_ne, beq_eq_false_iff_ne]
    exact ⟨fun h => hblank (h ▸ hm), fun h => hs (h ▸ hm)⟩
  have htype : (before ++ n ++ after).toList = before.toList ++ n.toList ++ after.toList := by simp
  constructor
  · apply references_of_pointsAt hl' hr'
    rw [htype]
    exact .declared hbefore hhead hupper hlast hafter hstar
  · rw [references_of_no_bracket (not_or.mpr ⟨hl', hr'⟩), classReference?_runtime, htype,
      objectPointer?_of_declared hbefore hhead hupper]
    rfl

/-- What well-formed types name: the protocols of a list, the first of them once more if the list qualifies the root
class, the class in quotes, and in a declaration the class before stars. -/
theorem references_spelled :
    (∀ (style : Style) (base tail first : String) (rest pieces : List String), '<' ∉ base.toList →
      (∀ n ∈ first :: rest, Text.isIdentifier n.toList = true) → List.Forall₂ Spaced pieces (first :: rest) →
      references style (base ++ "<" ++ Text.joinWith "," pieces ++ ">" ++ tail) =
        ((if unwrappedStart base.toList = rootName then [first] else []) ++ first :: rest).map .toProtocol) ∧
    (∀ (style : Style) (n : String), Text.isIdentifier n.toList = true →
      references style ("@\"" ++ n ++ "\"") = [.toClass n]) ∧
    ∀ (before n after : String) (c : Char), Text.isIdentifier n.toList = true → n.toList.head? = some c →
      c.isUpper = true → (∀ c ∈ before.toList, c = ' ') → (∀ c ∈ after.toList, isBlankOrStar c = true) →
      '*' ∈ after.toList →
      references .declaration (before ++ n ++ after) = [.toClass n] ∧
        references .runtime (before ++ n ++ after) = [] := by
  refine ⟨?_, ?_, ?_⟩
  · intro style base tail first rest pieces hbase hnames hpieces
    exact references_list style tail hbase hnames hpieces
  · intro style n hn
    exact references_quoted style hn
  · intro before n after c hn hhead hupper hbefore hafter hstar
    exact references_starred hn hhead hupper hbefore hafter hstar

theorem spinning_spelled :
    references .runtime ("@\"NSObject" ++ "<" ++ Text.joinWith "," ["Spinning", "  Oiled"] ++ ">" ++ "\"") =
      [.toProtocol "Spinning", .toProtocol "Spinning", .toProtocol "Oiled"] ∧
    references .declaration ("NSSet" ++ "<" ++ Text.joinWith "," ["Spinning", "  Oiled"] ++ ">" ++ " *") =
      [.toProtocol "Spinning", .toProtocol "Oiled"] ∧
    references .runtime ("@\"" ++ "Wheel" ++ "\"") = [.toClass "Wheel"] ∧
    references .declaration (" " ++ "Wheel" ++ " * *") = [.toClass "Wheel"] ∧
    references .runtime (" " ++ "Wheel" ++ " * *") = [] := by
  obtain ⟨hlist, hquoted, hstarred⟩ := references_spelled
  have hnames : ∀ n ∈ ["Spinning", "Oiled"], Text.isIdentifier n.toList = true := by
    rw [← List.forall_iff_forall_mem]
    decide
  have hfirst : Spaced "Spinning" "Spinning" := ⟨[], [], by simp, nofun, nofun⟩
  have hsecond : Spaced "  Oiled" "Oiled" := ⟨[' ', ' '], [], by decide, by simp, nofun⟩
  have hpieces : List.Forall₂ Spaced ["Spinning", "  Oiled"] ["Spinning", "Oiled"] := .cons hfirst (.cons hsecond .nil)
  have hbefore : ∀ c ∈ " ".toList, c = ' ' := by simp
  have hafter : ∀ c ∈ " * *".toList, isBlankOrStar c = true := by
    rw [← List.forall_iff_forall_mem]
    decide
  refine ⟨?_, ?_, hquoted .runtime "Wheel" (by decide), ?_⟩
  · exact hlist .runtime "@\"NSObject" "\"" "Spinning" ["Oiled"] _ (by decide) hnames hpieces
  · exact hlist .declaration "NSSet" " *" "Spinning" ["Oiled"] _ (by decide) hnames hpieces
  · exact hstarred " " "Wheel" " * *" 'W' (by decide) rfl (by decide) hbefore hafter (by decide)

end References

/-! ### Encodings without an object -/

section Objectless
variable {type : String}

theorem not_pointsAt_of_no_object {cs n : List Char} (h : '@' ∉ cs) : ¬ PointsAt .runtime cs n := by
  rintro (_ | _)
  · exact h List.mem_cons_self
  · exact h List.mem_cons_self

/-- An instance variable that names nothing leaves the imports of its class as they are. -/
theorem ofClass_ivar_of_references_eq_nil (s : Scope) (c : ObjcClass) (vs ws : List Ivar) {v : Ivar}
    (hv : v.type = some type) (h : references .runtime type = []) :
    s.ofClass { c with ivars := vs ++ v :: ws } = s.ofClass { c with ivars := vs ++ ws } := by
  have hrefs : ObjcClass.references { c with ivars := vs ++ v :: ws } =
      ObjcClass.references { c with ivars := vs ++ ws } := by
    simp [ObjcClass.references, optionalReferences, hv, h]
  rw [Scope.ofClass, Scope.ofClass, hrefs]

/-- An encoding without an object names no class, and it names exactly the identifiers of its first list in angle
brackets. Where that has none, an instance variable brings in nothing. -/
theorem references_runtime_of_no_object (h : '@' ∉ type.toList) :
    (∀ n, .toClass n ∉ references .runtime type) ∧
    (∀ n, .toProtocol n ∈ references .runtime type ↔ NamesProtocol type n) ∧
    (references .runtime type = [] ↔ ∀ n, ¬ NamesProtocol type n) ∧
    ('<' ∉ type.toList → references .runtime type = []) ∧
    ∀ (s : Scope) (c : ObjcClass) (vs ws : List Ivar) (v : Ivar), v.type = some type → (∀ n, ¬ NamesProtocol type n) →
      s.ofClass { c with ivars := vs ++ v :: ws } = s.ofClass { c with ivars := vs ++ ws } := by
  have hclass : ∀ n, .toClass n ∉ references .runtime type := by
    intro n hn
    exact not_pointsAt_of_no_object h (toClass_mem_references_iff.mp hn).2
  have hprotocol : ∀ n, .toProtocol n ∈ references .runtime type ↔ NamesProtocol type n :=
    fun n => toProtocol_mem_references_iff
  have hempty : references .runtime type = [] ↔ ∀ n, ¬ NamesProtocol type n := by
    simp only [List.eq_nil_iff_forall_not_mem, ← hprotocol]
    constructor
    · exact fun hnil n => hnil _
    · rintro hnil (n | n)
      · exact hclass n
      · exact hnil n
  refine ⟨hclass, hprotocol, hempty, ?_, ?_⟩
  · intro hbracket
    apply hempty.mpr
    rintro n ⟨inside, hlist, -⟩
    exact hbracket hlist.bracket_mem
  · intro s c vs ws v hv hnone
    exact ofClass_ivar_of_references_eq_nil s c vs ws hv (hempty.mpr hnone)

/-- A pointer to an instance of a class template, with a pointer and a number as its arguments. -/
def bufferType : String := "^\x7bBuffer<Spin *, 4>=^^v\x7d"

/-- It names nothing, since neither argument is an identifier. -/
theorem buffer_names_nothing :
    '@' ∉ bufferType.toList ∧ (∀ n, ¬ NamesProtocol bufferType n) ∧
    hangar.ofClass { name := "A", ivars := [{ name := "_buffer", type := some bufferType }] } =
      hangar.ofClass { name := "A" } := by
  have hobject : '@' ∉ bufferType.toList := by decide
  obtain ⟨-, -, hempty, -, hivar⟩ := references_runtime_of_no_object hobject
  have hnone : ∀ n, ¬ NamesProtocol bufferType n := hempty.mp (by decide)
  exact ⟨hobject, hnone, hivar hangar { name := "A" } [] [] _ rfl hnone⟩

/-- An instance of a class template with an argument that is an identifier. -/
def boxType : String := "\x7bBox<Spin>=i\x7d"

def boxed : ObjcClass where
  name := "A"
  ivars := [{ name := "_box", type := some boxType }]

theorem not_all_objectless_silent :
    (¬ ∀ type : String, '@' ∉ type.toList → references .runtime type = []) ∧
    ¬ ∀ (s : Scope) (c : ObjcClass) (v : Ivar) (type : String), v.type = some type → '@' ∉ type.toList →
      s.ofClass { c with ivars := [v] } = s.ofClass { c with ivars := [] } := by
  constructor
  · intro h
    exact absurd (h boxType (by decide)) (by decide)
  · intro h
    have hr : Entity.Refers (.ofClass boxed) (.toProtocol "Spin") := .ivar (List.mem_singleton.mpr rfl) rfl (by decide)
    have hc : (hangar.ofClass boxed).Carries (.toProtocol "Spin") := by
      refine (hangar.carries_ofEntity_iff hr ?_).mpr ?_
      · exact show ¬ hangar.foundation.hasProtocol "Spin" = true by decide
      · exact fun hhidden => absurd hhidden.1 List.not_mem_nil
    have he : hangar.ofClass boxed = hangar.ofClass { name := "A" } :=
      h hangar { name := "A" } _ boxType rfl (by decide)
    rw [he] at hc
    exact hangar.not_carries_of_references_eq_nil (e := .ofClass { name := "A" }) (by decide) _ hc

end Objectless

end ObjcAtlas.TypeEncoding
