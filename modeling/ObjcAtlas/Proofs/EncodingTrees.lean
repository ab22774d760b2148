import ObjcAtlas.Proofs.DecodingSteps

/-! Encodings as trees: what the grammar of encodings spells. The decoder reads exactly the text of one tree, unless
what follows continues a bit field or a bare object at its end. -/
namespace ObjcAtlas.TypeEncoding

/-- Structures and unions, which differ in their keyword and their brackets. -/
inductive AggregateKind where
  | struct
  | union

namespace AggregateKind

def keyword : AggregateKind → String
  | struct => "struct"
  | union => "union"

def opener : AggregateKind → Char
  | struct => '\x7b'
  | union => '('

def closer : AggregateKind → Char
  | struct => '\x7d'
  | union => ')'

end AggregateKind

/-- Characters that a tag does not contain. -/
def tagBreaks : List Char := ['\x7b', '\x7d', '(', ')', '[', ']', '=', '"']

mutual

/-- A type of the grammar: digits are those of any script, and quoted text has no quote inside. -/
inductive TypeTree where
  | simple (code : Char) (word : String) (hc : simpleType? code = some word)
  | qualified (code : Char) (word : String) (hc : qualifier? code = some word) (type : TypeTree)
  | pointer (target : TypeTree)
  | array (bound : List Char) (hb : ∀ c ∈ bound, Text.isDigit c = true) (element : TypeTree)
  | bitfield (width : List Char) (hw : ∀ c ∈ width, Text.isDigit c = true)
  | tagged (kind : AggregateKind) (tag : List Char) (ht : ∀ c ∈ tagBreaks, c ∉ tag)
  | aggregate (kind : AggregateKind) (tag : List Char) (ht : ∀ c ∈ tagBreaks, c ∉ tag) (fields : FieldTrees)
  | object
  | block
  | quoted (name : List Char) (hn : '"' ∉ name)

/-- The fields of a structure or union, each with or without a name. -/
inductive FieldTrees where
  | nil
  | unnamed (type : TypeTree) (rest : FieldTrees)
  | named (name : List Char) (hn : '"' ∉ name) (type : TypeTree) (rest : FieldTrees)

end

mutual

def TypeTree.text : TypeTree → List Char
  | .simple code _ _ => [code]
  | .qualified code _ _ t => code :: t.text
  | .pointer t => '^' :: t.text
  | .array bound _ t => '[' :: (bound ++ t.text ++ [']'])
  | .bitfield width _ => 'b' :: width
  | .tagged kind tag _ => kind.opener :: (tag ++ [kind.closer])
  | .aggregate kind tag _ fields => kind.opener :: (tag ++ '=' :: fields.text ++ [kind.closer])
  | .object => ['@']
  | .block => ['@', '?']
  | .quoted name _ => '@' :: '"' :: (name ++ ['"'])

def FieldTrees.text : FieldTrees → List Char
  | .nil => []
  | .unnamed t fields => t.text ++ fields.text
  | .named name _ t fields => '"' :: (name ++ ['"']) ++ t.text ++ fields.text

end

/-- The words for a structure or union. -/
def aggregateWords (keyword : String) (tag : List Char) : List Char :=
  if tag = [] ∨ tag = ['?'] then keyword.toList ++ " \x7b /* anonymous */ \x7d".toList
  else keyword.toList ++ ' ' :: tag

def objectWord : List Char := "id".toList

def blockWords : List Char := "id /* block */".toList

def bitfieldWords : List Char := "unsigned int".toList

def widthSuffix (width : List Char) : List Char := " : ".toList ++ width

namespace TypeTree

/-- What a tree declares. -/
def meaning : TypeTree → Declarator
  | simple _ word _ => ⟨word.toList, []⟩
  | qualified _ word _ t => ⟨word.toList ++ ' ' :: t.meaning.base, t.meaning.suffix⟩
  | pointer t => ⟨pointerTo t.meaning.base, t.meaning.suffix⟩
  | array bound _ t => ⟨t.meaning.base, '[' :: bound ++ ']' :: t.meaning.suffix⟩
  | bitfield width _ => ⟨bitfieldWords, widthSuffix width⟩
  | tagged kind tag _ => ⟨aggregateWords kind.keyword tag, []⟩
  | aggregate kind tag _ _ => ⟨aggregateWords kind.keyword tag, []⟩
  | object => ⟨objectWord, []⟩
  | block => ⟨blockWords, []⟩
  | quoted name _ => ⟨quotedWords name, []⟩

/-- Whether the text that follows leaves the end of a type as it is: no digit after a bit field, neither a question mark
nor a quote after a bare object. -/
def StopsBefore (rest : List Char) : TypeTree → Prop
  | qualified _ _ _ t => t.StopsBefore rest
  | pointer t => t.StopsBefore rest
  | bitfield _ _ => ∀ c, rest.head? = some c → Text.isDigit c = false
  | object => rest.head? ≠ some '?' ∧ rest.head? ≠ some '"'
  | _ => True

end TypeTree

/-! ### The search for a closing bracket -/

/-- Characters that count for one search or the other. -/
def marks : List Char := ['"', '\x7b', '\x7d', '(', ')']

namespace AggregateKind
variable {k : AggregateKind} {w v : List Char}

/-- Whether the search for the closing bracket passes over a text, wherever it stands outside quotes. -/
def PassesOver (k : AggregateKind) (w : List Char) : Prop :=
  ∀ depth rest, aggregateSpan k.opener k.closer (depth + 1) false (w ++ rest) =
    (w ++ (aggregateSpan k.opener k.closer (depth + 1) false rest).1,
      (aggregateSpan k.opener k.closer (depth + 1) false rest).2)

theorem opener_mem (k : AggregateKind) : k.opener ∈ marks := by cases k <;> decide

theorem closer_mem (k : AggregateKind) : k.closer ∈ marks := by cases k <;> decide

theorem passesOver_nil : k.PassesOver [] := fun _ _ => rfl

theorem PassesOver.append (hw : k.PassesOver w) (hv : k.PassesOver v) : k.PassesOver (w ++ v) := by
  intro depth rest
  rw [List.append_assoc, hw, hv]
  simp

theorem passesOver_singleton {c : Char} (hq : c ≠ '"') (ho : c ≠ k.opener) (hc : c ≠ k.closer) :
    k.PassesOver [c] := by
  intro depth rest
  simp [aggregateSpan, hq, ho, hc]

theorem passesOver_of_not_mem (h : ∀ c ∈ marks, c ∉ w) : k.PassesOver w := by
  induction w with
  | nil => exact passesOver_nil
  | cons c w ih =>
    have hc : ∀ m ∈ marks, c ≠ m := fun m hm he => h m hm (he ▸ List.mem_cons_self)
    have hw : ∀ m ∈ marks, m ∉ w := fun m hm he => h m hm (List.mem_cons_of_mem c he)
    exact (passesOver_singleton (hc _ (by decide)) (hc _ k.opener_mem) (hc _ k.closer_mem)).append (ih hw)

theorem aggregateSpan_quoted (opener closer : Char) (hw : '"' ∉ w) (depth : Nat) (rest : List Char) :
    aggregateSpan opener closer depth true (w ++ '"' :: rest) =
      (w ++ '"' :: (aggregateSpan opener closer depth false rest).1,
        (aggregateSpan opener closer depth false rest).2) := by
  induction w with
  | nil => simp [aggregateSpan]
  | cons c w ih =>
    obtain ⟨hc, hw⟩ := List.ne_and_not_mem_of_not_mem_cons hw
    have hc' : (c != '"') = true := by simpa using Ne.symm hc
    simp [aggregateSpan, hc', ih hw]

theorem passesOver_quoted (hw : '"' ∉ w) : k.PassesOver ('"' :: (w ++ ['"'])) := by
  intro depth rest
  have hs := aggregateSpan_quoted k.opener k.closer hw (depth + 1) rest
  simp [aggregateSpan, hs]

theorem aggregateSpan_opener (k : AggregateKind) (depth : Nat) (cs : List Char) :
    aggregateSpan k.opener k.closer depth false (k.opener :: cs) =
      (k.opener :: (aggregateSpan k.opener k.closer (depth + 1) false cs).1,
        (aggregateSpan k.opener k.closer (depth + 1) false cs).2) := by
  have hq : k.opener ≠ '"' := by cases k <;> decide
  simp [aggregateSpan, hq]

theorem aggregateSpan_closer (k : AggregateKind) (depth : Nat) (cs : List Char) :
    aggregateSpan k.opener k.closer (depth + 2) false (k.closer :: cs) =
      (k.closer :: (aggregateSpan k.opener k.closer (depth + 1) false cs).1,
        (aggregateSpan k.opener k.closer (depth + 1) false cs).2) := by
  have hq : k.closer ≠ '"' := by cases k <;> decide
  have ho : k.closer ≠ k.opener := by cases k <;> decide
  simp [aggregateSpan, hq, ho]

theorem apart {j : AggregateKind} (h : j ≠ k) :
    ∀ c ∈ [j.opener, j.closer], c ≠ '"' ∧ c ≠ k.opener ∧ c ≠ k.closer := by
  cases j <;> cases k <;> simp [opener, closer] at h ⊢

/-- Brackets of the search's own kind are counted, those of the other kind are not looked at. -/
theorem PassesOver.enclosed (hw : k.PassesOver w) (j : AggregateKind) :
    k.PassesOver (j.opener :: (w ++ [j.closer])) := by
  by_cases hj : j = k
  · subst hj
    intro depth rest
    rw [List.cons_append, aggregateSpan_opener, List.append_assoc, hw, List.singleton_append, aggregateSpan_closer]
    simp
  · have hsingle : ∀ c ∈ [j.opener, j.closer], k.PassesOver [c] := by
      intro c hc
      obtain ⟨hq, ho, hcl⟩ := apart hj c hc
      exact passesOver_singleton hq ho hcl
    have hopen := hsingle j.opener List.mem_cons_self
    have hclose := hsingle j.closer (List.mem_cons_of_mem _ List.mem_cons_self)
    exact hopen.append (hw.append hclose)

theorem PassesOver.aggregateSpan_eq (hw : k.PassesOver w) (rest : List Char) :
    aggregateSpan k.opener k.closer 1 false (w ++ k.closer :: rest) = (w ++ [k.closer], rest) := by
  have hclose : aggregateSpan k.opener k.closer 1 false (k.closer :: rest) = ([k.closer], rest) := by
    cases k <;> simp [aggregateSpan, opener, closer]
  rw [hw 0, hclose]

theorem decode_opener (k : AggregateKind) (cs : List Char) :
    decode none (k.opener :: cs) =
      (⟨(aggregate k.keyword k.opener k.closer cs).1, []⟩, (aggregate k.keyword k.opener k.closer cs).2) := by
  cases k with
  | struct => exact decode_leaf rfl (by decide) (by decide)
  | union => exact decode_leaf rfl (by decide) (by decide)

/-- The words come from the tag alone, whatever fields follow it. -/
theorem decode_aggregate {tag fields : List Char} (ht : '=' ∉ tag) (hf : ∀ c, fields.head? = some c → c = '=')
    (hw : k.PassesOver (tag ++ fields)) (rest : List Char) :
    decode none (k.opener :: (tag ++ fields ++ [k.closer]) ++ rest) = (⟨aggregateWords k.keyword tag, []⟩, rest) := by
  have hspan := hw.aggregateSpan_eq rest
  have hread : aggregate k.keyword k.opener k.closer (tag ++ fields ++ k.closer :: rest) =
      (aggregateWords k.keyword tag, rest) := by
    simp only [aggregate, hspan, List.dropLast_concat, Text.takeWhile_bne_append ht hf]
    rfl
  have hcons : k.opener :: (tag ++ fields ++ [k.closer]) ++ rest = k.opener :: (tag ++ fields ++ k.closer :: rest) := by
    simp
  rw [hcons, decode_opener, hread]

end AggregateKind

/-! ### Reading one type -/

section Leaves
variable {c : Char} {word : String} {rest : List Char}

theorem simple_apart (hc : simpleType? c = some word) :
    Text.isDigit c = false ∧ qualifier? c = none ∧ c ∉ marks ∧ c ∉ ['^', '[', '@', 'b'] := by
  fun_cases simpleType? c with
  | case20 => simp_all [simpleType?]
  | _ => decide

theorem decode_simple (hc : simpleType? c = some word) (rest : List Char) :
    decode none (c :: rest) = (⟨word.toList, []⟩, rest) := by
  obtain ⟨-, hq, hm, ho⟩ := simple_apart hc
  simp only [marks, List.mem_cons, List.not_mem_nil, or_false, not_or] at hm ho
  rw [decode_leaf hq ho.1 ho.2.1]
  simp [leaf, hm, ho, hc]

theorem decode_bitfield {width : List Char} (hw : ∀ c ∈ width, Text.isDigit c = true)
    (hr : ∀ c, rest.head? = some c → Text.isDigit c = false) :
    decode none ('b' :: (width ++ rest)) = (⟨bitfieldWords, widthSuffix width⟩, rest) := by
  have hread : decode none ('b' :: (width ++ rest)) = (⟨bitfieldWords,
      widthSuffix ((width ++ rest).takeWhile Text.isDigit)⟩, (width ++ rest).dropWhile Text.isDigit) :=
    decode_leaf rfl (by decide) (by decide)
  rw [hread, Text.takeWhile_append_of_head hw hr, Text.dropWhile_append_of_head hw hr]

theorem object_bare (hb : rest.head? ≠ some '?') (hq : rest.head? ≠ some '"') :
    object rest = (objectWord, rest) := by
  fun_cases object rest with
  | case1 cs => exact absurd rfl hb
  | case2 cs => exact absurd rfl hq
  | case3 => rfl

theorem object_rest_ne {c : Char} (hc : c = '?' ∨ c = '"') (cs : List Char) : (object (c :: cs)).2 ≠ c :: cs := by
  have hlt : (object (c :: cs)).2.length < (c :: cs).length := by
    rcases hc with rfl | rfl
    · exact Nat.lt_succ_self _
    · have hle := (cs.dropWhile_suffix (· != '"')).length_le
      have hdrop : (object ('"' :: cs)).2.length = ((cs.dropWhile (· != '"')).drop 1).length := rfl
      rw [hdrop, List.length_drop, List.length_cons]
      omega
  intro he
  rw [he] at hlt
  exact Nat.lt_irrefl _ hlt

end Leaves

/-! ### Trees -/

section Trees
variable {rest : List Char}

theorem not_mem_marks_of_isDigit {cs : List Char} (h : ∀ c ∈ cs, Text.isDigit c = true) : ∀ m ∈ marks, m ∉ cs := by
  have hm : ∀ m ∈ marks, Text.isDigit m = false := by
    rw [← List.forall_iff_forall_mem]
    decide
  intro m hmark hmem
  exact absurd (h m hmem) (by simp [hm m hmark])

theorem not_mem_marks_of_qualifier? {c : Char} {word : String} (hc : qualifier? c = some word) : c ∉ marks := by
  have hm : ∀ m ∈ marks, qualifier? m = none := by
    rw [← List.forall_iff_forall_mem]
    decide
  intro hmem
  rw [hm c hmem] at hc
  cases hc

theorem not_mem_marks_of_tag {tag : List Char} (ht : ∀ c ∈ tagBreaks, c ∉ tag) : ∀ m ∈ marks, m ∉ tag := by
  have hm : ∀ m ∈ marks, m ∈ tagBreaks := by
    rw [← List.forall_iff_forall_mem]
    decide
  exact fun m hmark => ht m (hm m hmark)

theorem passesOver_code {k : AggregateKind} {c : Char} (hc : c ∉ marks) : k.PassesOver [c] := by
  apply AggregateKind.passesOver_of_not_mem
  intro m hm hmem
  exact hc (List.mem_singleton.mp hmem ▸ hm)

mutual

/-- The search for a closing bracket passes over every type, whatever brackets it has inside. -/
theorem TypeTree.passesOver (k : AggregateKind) : ∀ t : TypeTree, k.PassesOver t.text
  | .simple _ _ hc => passesOver_code (simple_apart hc).2.2.1
  | .qualified _ _ hc t => (passesOver_code (not_mem_marks_of_qualifier? hc)).append (t.passesOver k)
  | .pointer t => (passesOver_code (by decide)).append (t.passesOver k)
  | .array bound hb t => by
    have hbound := AggregateKind.passesOver_of_not_mem (k := k) (not_mem_marks_of_isDigit hb)
    exact (passesOver_code (by decide)).append ((hbound.append (t.passesOver k)).append (passesOver_code (by decide)))
  | .bitfield width hw =>
    (passesOver_code (by decide)).append (AggregateKind.passesOver_of_not_mem (not_mem_marks_of_isDigit hw))
  | .tagged j tag ht => (AggregateKind.passesOver_of_not_mem (not_mem_marks_of_tag ht)).enclosed j
  | .aggregate j tag ht fields => by
    have htag := AggregateKind.passesOver_of_not_mem (k := k) (not_mem_marks_of_tag ht)
    have hfields : k.PassesOver ('=' :: fields.text) := (passesOver_code (by decide)).append (fields.passesOver k)
    exact (htag.append hfields).enclosed j
  | .object => passesOver_code (by decide)
  | .block => (passesOver_code (by decide)).append (passesOver_code (by decide))
  | .quoted name hn => (passesOver_code (by decide)).append (AggregateKind.passesOver_quoted hn)

theorem FieldTrees.passesOver (k : AggregateKind) : ∀ fields : FieldTrees, k.PassesOver fields.text
  | .nil => AggregateKind.passesOver_nil
  | .unnamed t fields => (t.passesOver k).append (fields.passesOver k)
  | .named _ hn t fields =>
    ((AggregateKind.passesOver_quoted hn).append (t.passesOver k)).append (fields.passesOver k)

end

namespace TypeTree

theorem exists_text_cons (t : TypeTree) : ∃ c cs, t.text = c :: cs ∧ Text.isDigit c = false := by
  cases t with
  | simple c word hc => exact ⟨c, [], rfl, (simple_apart hc).1⟩
  | qualified c word hc t => exact ⟨c, _, rfl, isDigit_of_qualifier? hc⟩
  | pointer t => exact ⟨_, _, rfl, by decide⟩
  | array bound hb t => exact ⟨_, _, rfl, by decide⟩
  | bitfield width hw => exact ⟨_, _, rfl, by decide⟩
  | tagged k tag ht => exact ⟨_, _, rfl, by cases k <;> decide⟩
  | aggregate k tag ht fields => exact ⟨_, _, rfl, by cases k <;> decide⟩
  | object => exact ⟨_, _, rfl, by decide⟩
  | block => exact ⟨_, _, rfl, by decide⟩
  | quoted name hn => exact ⟨_, _, rfl, by decide⟩

/-- The end of the text and a closing bracket end every type. -/
theorem stopsBefore_of_head (h : ∀ c, rest.head? = some c → c = ']') : ∀ t : TypeTree, t.StopsBefore rest
  | qualified _ _ _ t => stopsBefore_of_head h t
  | pointer t => stopsBefore_of_head h t
  | bitfield _ _ => by
    intro c hc
    obtain rfl := h c hc
    decide
  | object => by
    constructor
    · intro hc
      cases h _ hc
    · intro hc
      cases h _ hc
  | simple _ _ _ | array _ _ _ | tagged _ _ _ | aggregate _ _ _ _ | block | quoted _ _ => trivial

/-- The decoder reads a type that stops before what follows, and leaves that. -/
theorem decode_text_append : ∀ (t : TypeTree) {rest : List Char}, t.StopsBefore rest →
    decode none (t.text ++ rest) = (t.meaning, rest)
  | simple _ _ hc, rest, _ => by
    rw [text, meaning]
    exact decode_simple hc rest
  | qualified _ _ hc t, rest, h => by
    rw [text, List.cons_append, meaning]
    exact decode_qualifier hc (decode_text_append t h)
  | pointer t, rest, h => by
    rw [text, List.cons_append, meaning]
    exact decode_pointer (decode_text_append t h)
  | array bound hb t, rest, _ => by
    obtain ⟨c, cs, he, hc⟩ := t.exists_text_cons
    have hstop : t.StopsBefore (']' :: rest) := stopsBefore_of_head (by simp) t
    have hread := decode_text_append t hstop
    rw [he, List.cons_append] at hread
    have hcons : (array bound hb t).text ++ rest = '[' :: (bound ++ c :: (cs ++ ']' :: rest)) := by
      simp [text, he]
    rw [hcons, decode_array hb hc hread, meaning]
  | bitfield _ hw, rest, h => by
    rw [text, List.cons_append, meaning]
    exact decode_bitfield hw h
  | tagged k tag ht, rest, _ => by
    have hpass : k.PassesOver (tag ++ []) := by
      rw [List.append_nil]
      exact AggregateKind.passesOver_of_not_mem (not_mem_marks_of_tag ht)
    have hread := AggregateKind.decode_aggregate (ht '=' (by decide)) (by simp) hpass rest
    rw [List.append_nil] at hread
    rw [text, meaning]
    exact hread
  | aggregate k tag ht fields, rest, _ => by
    have htag := AggregateKind.passesOver_of_not_mem (k := k) (not_mem_marks_of_tag ht)
    have hfields : k.PassesOver ('=' :: fields.text) := (passesOver_code (by decide)).append (fields.passesOver k)
    rw [text, meaning]
    exact AggregateKind.decode_aggregate (ht '=' (by decide)) (by simp) (htag.append hfields) rest
  | object, rest, h => by
    rw [text, meaning, List.singleton_append, decode_object, object_bare h.1 h.2]
  | block, rest, _ => by
    rw [text, meaning, List.cons_append, decode_object]
    rfl
  | quoted name hn, rest, _ => by
    have hcons : (quoted name hn).text ++ rest = '@' :: '"' :: (name ++ '"' :: rest) := by simp [text]
    rw [hcons, decode_object, object_quoted hn]
    rfl

/-- What the decoder leaves tells whether the type stopped there. -/
theorem stopsBefore_of_rest : ∀ (t : TypeTree) {rest : List Char}, (decode none (t.text ++ rest)).2 = rest →
    t.StopsBefore rest
  | qualified c word hc t, rest, h => by
    rw [text, List.cons_append, decode_qualifier hc rfl] at h
    exact stopsBefore_of_rest t h
  | pointer t, rest, h => by
    rw [text, List.cons_append, decode_pointer rfl] at h
    exact stopsBefore_of_rest t h
  | bitfield width hw, rest, h => by
    have hdrop : rest.dropWhile Text.isDigit = rest := by
      rw [← List.dropWhile_append_of_pos hw]
      exact h
    intro c hc
    cases rest with
    | nil => cases hc
    | cons a cs =>
      obtain rfl : a = c := Option.some.inj hc
      rw [List.dropWhile_eq_self_iff] at hdrop
      simpa using hdrop (Nat.succ_pos _)
  | object, rest, h => by
    rw [text, List.singleton_append, decode_object] at h
    cases rest with
    | nil => exact ⟨nofun, nofun⟩
    | cons c cs =>
      have hc : ∀ a, a = '?' ∨ a = '"' → (c :: cs).head? ≠ some a := by
        rintro a ha hac
        obtain rfl : c = a := Option.some.inj hac
        exact object_rest_ne ha cs h
      exact ⟨hc _ (Or.inl rfl), hc _ (Or.inr rfl)⟩
  | simple _ _ _, _, _ | array _ _ _, _, _ | tagged _ _ _, _, _ | aggregate _ _ _ _, _, _ | block, _, _
  | quoted _ _, _, _ => trivial

/-- With anything after it a type is read as it is alone, and what follows is left, exactly if the type stops there. -/
theorem decode_text_append_iff (t : TypeTree) (rest : List Char) :
    decode none (t.text ++ rest) = (declarator (String.ofList t.text), rest) ↔ t.StopsBefore rest := by
  constructor
  · intro h
    exact t.stopsBefore_of_rest (congrArg Prod.snd h)
  · intro h
    have halone : t.StopsBefore [] := t.stopsBefore_of_head (by simp)
    have hread := t.decode_text_append halone
    rw [List.append_nil] at hread
    rw [t.decode_text_append h, declarator, String.toList_ofList, hread]

/-- The bracket in quotes does not close the structure; the digit after it is no width. -/
example : decode none "\x7bPair=\"left\"@\"A\x7d\"b3\x7d4".toList = (⟨"struct Pair".toList, []⟩, ['4']) := by decide

end TypeTree
end Trees

end ObjcAtlas.TypeEncoding
