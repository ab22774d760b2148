import ObjcAtlas.Proofs.EncodingTrees

/-! Tags of structures and unions in any text. The text of an aggregate ends at the bracket that closes it, or with the
encoding if none does. The tag is read right in the first case; in the second its last character may be lost. -/
namespace ObjcAtlas.TypeEncoding
namespace AggregateKind
variable {k : AggregateKind} {c : Char} {n : Nat} {cs w v body rest : List Char}

/-- Text in which all brackets of a kind are closed. Quoted text is passed over. -/
inductive Balanced (k : AggregateKind) : List Char → Prop
  | nil : Balanced k []
  | plain {c : Char} {w : List Char} (hq : c ≠ '"') (ho : c ≠ k.opener) (hc : c ≠ k.closer) (hw : Balanced k w) :
      Balanced k (c :: w)
  | quoted {name w : List Char} (hn : '"' ∉ name) (hw : Balanced k w) : Balanced k ('"' :: (name ++ '"' :: w))
  | nested {v w : List Char} (hv : Balanced k v) (hw : Balanced k w) : Balanced k (k.opener :: (v ++ k.closer :: w))

/-- No bracket closes the one before this text. -/
def NeverCloses (k : AggregateKind) (cs : List Char) : Prop :=
  ∀ body rest, k.Balanced body → cs ≠ body ++ k.closer :: rest

/-- The text that an aggregate encloses, told from what stands after its opening bracket. -/
inductive Encloses (k : AggregateKind) (cs : List Char) : List Char → Prop
  | closed {body rest : List Char} (hb : k.Balanced body) (h : cs = body ++ k.closer :: rest) : Encloses k cs body
  | unclosed (h : k.NeverCloses cs) : Encloses k cs cs

/-- The tag of an aggregate stands before its first equals sign. -/
def tagOf (body : List Char) : List Char := body.takeWhile (· != '=')

/-! ### Where the search ends -/

theorem Balanced.passesOver (h : k.Balanced w) : k.PassesOver w := by
  induction h with
  | nil => exact passesOver_nil
  | plain hq ho hc _ ih => exact (passesOver_singleton hq ho hc).append ih
  | @quoted name w hn _ ih =>
    have hcons : '"' :: (name ++ '"' :: w) = '"' :: (name ++ ['"']) ++ w := by simp
    rw [hcons]
    exact (passesOver_quoted hn).append ih
  | @nested v w _ _ ihv ihw =>
    have hcons : k.opener :: (v ++ k.closer :: w) = k.opener :: (v ++ [k.closer]) ++ w := by simp
    rw [hcons]
    exact (ihv.enclosed k).append ihw

theorem Balanced.aggregateSpan_eq (h : k.Balanced body) (rest : List Char) :
    aggregateSpan k.opener k.closer 1 false (body ++ k.closer :: rest) = (body ++ [k.closer], rest) :=
  h.passesOver.aggregateSpan_eq rest

/-- Text that closes one bracket more than `n`, the last of them at its end. -/
inductive Closes (k : AggregateKind) : Nat → List Char → Prop
  | last {w : List Char} (hw : k.Balanced w) : Closes k 0 (w ++ [k.closer])
  | more {n : Nat} {w v : List Char} (hw : k.Balanced w) (hv : Closes k n v) : Closes k (n + 1) (w ++ k.closer :: v)

namespace Closes

theorem plain (hq : c ≠ '"') (ho : c ≠ k.opener) (hc : c ≠ k.closer) (h : k.Closes n w) : k.Closes n (c :: w) := by
  cases h with
  | last hw => exact .last (.plain hq ho hc hw)
  | more hw hv => exact .more (.plain hq ho hc hw) hv

theorem quoted {name : List Char} (hn : '"' ∉ name) (h : k.Closes n w) :
    k.Closes n ('"' :: (name ++ '"' :: w)) := by
  cases h with
  | @last w hw =>
    have hlast := Closes.last (.quoted hn hw)
    simpa using hlast
  | @more n w v hw hv =>
    have hmore := Closes.more (.quoted hn hw) hv
    simpa using hmore

theorem nested (h : k.Closes (n + 1) w) : k.Closes n (k.opener :: w) := by
  cases h with
  | @more n w v hw hv =>
    cases hv with
    | @last v hv =>
      have hlast := Closes.last (.nested hw hv)
      simpa using hlast
    | @more n v u hv hu =>
      have hmore := Closes.more (.nested hw hv) hu
      simpa using hmore

theorem exists_of_zero (h : k.Closes 0 w) : ∃ body, k.Balanced body ∧ w = body ++ [k.closer] := by
  cases h with
  | last hw => exact ⟨_, hw, rfl⟩

end Closes

/-- What the search takes of a text and leaves, from inside quotes or outside: all is taken, or as much as closes the
open brackets. -/
def Finds (k : AggregateKind) (n : Nat) (inQuotes : Bool) (cs : List Char) (r : List Char × List Char) : Prop :=
  r = (cs, []) ∨ cs = r.1 ++ r.2 ∧
    if inQuotes then ∃ name w, '"' ∉ name ∧ r.1 = name ++ '"' :: w ∧ k.Closes n w else k.Closes n r.1

namespace Finds
variable {r : List Char × List Char}

theorem plain (hq : c ≠ '"') (ho : c ≠ k.opener) (hc : c ≠ k.closer) (h : k.Finds n false cs r) :
    k.Finds n false (c :: cs) (c :: r.1, r.2) := by
  rcases h with rfl | ⟨rfl, hr⟩
  · exact Or.inl rfl
  · exact Or.inr ⟨rfl, Closes.plain hq ho hc hr⟩

theorem nested (h : k.Finds (n + 1) false cs r) : k.Finds n false (k.opener :: cs) (k.opener :: r.1, r.2) := by
  rcases h with rfl | ⟨rfl, hr⟩
  · exact Or.inl rfl
  · exact Or.inr ⟨rfl, Closes.nested hr⟩

theorem closing (h : k.Finds n false cs r) : k.Finds (n + 1) false (k.closer :: cs) (k.closer :: r.1, r.2) := by
  rcases h with rfl | ⟨rfl, hr⟩
  · exact Or.inl rfl
  · exact Or.inr ⟨rfl, Closes.more .nil hr⟩

theorem quoted (h : k.Finds n true cs r) : k.Finds n false ('"' :: cs) ('"' :: r.1, r.2) := by
  rcases h with rfl | ⟨rfl, name, w, hn, hr, hw⟩
  · exact Or.inl rfl
  · refine Or.inr ⟨rfl, ?_⟩
    rw [hr]
    exact hw.quoted hn

theorem inside (hq : c ≠ '"') (h : k.Finds n true cs r) : k.Finds n true (c :: cs) (c :: r.1, r.2) := by
  rcases h with rfl | ⟨rfl, name, w, hn, hr, hw⟩
  · exact Or.inl rfl
  · refine Or.inr ⟨rfl, c :: name, w, ?_, ?_, hw⟩
    · simpa using ⟨Ne.symm hq, hn⟩
    · rw [hr, List.cons_append]

theorem unquoted (h : k.Finds n false cs r) : k.Finds n true ('"' :: cs) ('"' :: r.1, r.2) := by
  rcases h with rfl | ⟨rfl, hr⟩
  · exact Or.inl rfl
  · exact Or.inr ⟨rfl, [], r.1, List.not_mem_nil, rfl, hr⟩

end Finds

theorem finds_aggregateSpan (k : AggregateKind) (n : Nat) (inQuotes : Bool) (cs : List Char) :
    k.Finds n inQuotes cs (aggregateSpan k.opener k.closer (n + 1) inQuotes cs) := by
  induction cs generalizing n inQuotes with
  | nil => exact Or.inl rfl
  | cons c cs ih =>
    cases inQuotes with
    | true =>
      by_cases hq : c = '"'
      · subst hq
        exact (ih n false).unquoted
      · have hspan : (c != '"') = true := by simpa using hq
        rw [aggregateSpan, hspan]
        exact (ih n true).inside hq
    | false =>
      by_cases hq : c = '"'
      · subst hq
        exact (ih n true).quoted
      by_cases ho : c = k.opener
      · subst ho
        rw [aggregateSpan_opener]
        exact (ih (n + 1) false).nested
      by_cases hc : c = k.closer
      · subst hc
        cases n with
        | zero =>
          have hspan : aggregateSpan k.opener k.closer 1 false (k.closer :: cs) = ([k.closer], cs) :=
            Balanced.nil.aggregateSpan_eq cs
          rw [hspan]
          exact Or.inr ⟨rfl, .last .nil⟩
        | succ n =>
          rw [aggregateSpan_closer]
          exact (ih n false).closing
      · rw [aggregateSpan, if_neg hq, if_neg ho, if_neg hc]
        exact (ih n false).plain hq ho hc

theorem NeverCloses.aggregateSpan_eq (h : k.NeverCloses cs) :
    aggregateSpan k.opener k.closer 1 false cs = (cs, []) := by
  rcases k.finds_aggregateSpan 0 false cs with hall | ⟨hcs, hr⟩
  · exact hall
  · obtain ⟨body, hb, htaken⟩ := Closes.exists_of_zero hr
    rw [htaken, List.append_assoc] at hcs
    exact absurd hcs (h body _ hb)

/-- There is one such text for each encoding. -/
theorem Encloses.eq {other : List Char} (h : k.Encloses cs body) (h' : k.Encloses cs other) : other = body := by
  cases h with
  | closed hb hcs =>
    cases h' with
    | @closed other rest' hb' hcs' =>
      have hspan := hb'.aggregateSpan_eq rest'
      rw [← hcs', hcs, hb.aggregateSpan_eq] at hspan
      exact (List.append_cancel_right (Prod.mk.inj hspan).1).symm
    | unclosed hn => exact absurd hcs (hn _ _ hb)
  | unclosed hn =>
    cases h' with
    | closed hb' hcs' => exact absurd hcs' (hn _ _ hb')
    | unclosed => rfl

theorem exists_encloses (k : AggregateKind) (cs : List Char) : ∃ body, k.Encloses cs body := by
  by_cases h : k.NeverCloses cs
  · exact ⟨cs, .unclosed h⟩
  · simp only [NeverCloses, not_forall, not_not] at h
    obtain ⟨body, rest, hb, hcs⟩ := h
    exact ⟨body, .closed hb hcs⟩

/-! ### The words for a tag -/

/-- The text of an encoding is the words for what the search takes, less its last character. -/
theorem typeText_opener (k : AggregateKind) (cs : List Char) :
    typeText (String.ofList (k.opener :: cs)) = String.ofList
      (aggregateWords k.keyword (tagOf (aggregateSpan k.opener k.closer 1 false cs).1.dropLast)) := by
  have hread := k.decode_opener cs
  simp only [typeText, declarator, String.toList_ofList, hread, List.append_nil]
  rfl

theorem tagOf_append {tag fields : List Char} (ht : '=' ∉ tag) (hf : ∀ c, fields.head? = some c → c = '=') :
    tagOf (tag ++ fields) = tag :=
  Text.takeWhile_bne_append ht hf

theorem tagOf_of_not_mem (h : '=' ∉ cs) : tagOf cs = cs := by
  have htag : tagOf (cs ++ []) = cs := tagOf_append h nofun
  rwa [List.append_nil] at htag

/-- The last character of a text is no part of its tag if there is an equals sign. -/
theorem tagOf_dropLast (h : '=' ∈ cs) : tagOf cs.dropLast = tagOf cs := by
  obtain ⟨tag, fields, rfl, ht⟩ := List.eq_append_cons_of_mem h
  have hhead : ∀ c, ('=' :: fields).dropLast.head? = some c → c = '=' := by
    cases fields with
    | nil => exact nofun
    | cons a fields =>
      intro c hc
      exact (Option.some.inj hc).symm
  rw [List.dropLast_append_of_ne_nil (List.cons_ne_nil _ _), tagOf_append ht hhead, tagOf_append ht (by simp)]

/-- A character more makes other words, but for the question mark alone, which is as good as no tag. -/
theorem aggregateWords_concat_ne (keyword : String) {tag : List Char} (h : tag ++ [c] ≠ ['?']) :
    aggregateWords keyword (tag ++ [c]) ≠ aggregateWords keyword tag := by
  intro he
  have hlength := congrArg List.length he
  have hnil : tag ++ [c] ≠ [] := by simp
  rw [aggregateWords, if_neg (not_or.mpr ⟨hnil, h⟩), aggregateWords] at hlength
  split at hlength
  · next hanonymous => rcases hanonymous with rfl | rfl <;> simp at hlength
  · simp at hlength

/-- Without the last character the words are the same exactly if it is no part of the tag, or there is no tag. -/
theorem aggregateWords_dropLast_iff (keyword : String) (cs : List Char) :
    aggregateWords keyword (tagOf cs.dropLast) = aggregateWords keyword (tagOf cs) ↔
      '=' ∈ cs ∨ cs = [] ∨ cs = ['?'] := by
  constructor
  · intro he
    by_cases heq : '=' ∈ cs
    · exact Or.inl heq
    rcases List.eq_nil_or_concat cs with rfl | ⟨tag, c, rfl⟩
    · exact Or.inr (Or.inl rfl)
    · rw [List.concat_eq_append] at heq he ⊢
      have htag : '=' ∉ tag := fun hm => heq (List.mem_append_left _ hm)
      rw [List.dropLast_concat, tagOf_of_not_mem htag, tagOf_of_not_mem heq] at he
      by_contra hne
      have hmark : tag ++ [c] ≠ ['?'] := fun hm => hne (Or.inr (Or.inr hm))
      exact aggregateWords_concat_ne keyword hmark he.symm
  · rintro (heq | rfl | rfl)
    · rw [tagOf_dropLast heq]
    · rfl
    · rfl

/-- For each text after an opening bracket there is one text that the aggregate encloses. Its tag is told, unless the
aggregate is never closed, has no equals sign, and neither is empty nor a lone question mark: then the tag that is told
lacks its last character. -/
theorem typeText_aggregate (k : AggregateKind) (cs : List Char) :
    ∃ body, k.Encloses cs body ∧ (∀ other, k.Encloses cs other → other = body) ∧
      (typeText (String.ofList (k.opener :: cs)) = String.ofList (aggregateWords k.keyword (tagOf body)) ↔
        ¬ k.NeverCloses cs ∨ '=' ∈ cs ∨ cs = [] ∨ cs = ['?']) ∧
      (k.NeverCloses cs →
        typeText (String.ofList (k.opener :: cs)) = String.ofList (aggregateWords k.keyword (tagOf cs.dropLast))) := by
  obtain ⟨body, hbody⟩ := k.exists_encloses cs
  refine ⟨body, hbody, fun other h => hbody.eq h, ?_, ?_⟩
  · cases hbody with
    | closed hb hcs =>
      have hcloses : ¬ k.NeverCloses cs := fun hn => hn _ _ hb hcs
      have htext : typeText (String.ofList (k.opener :: cs)) =
          String.ofList (aggregateWords k.keyword (tagOf body)) := by
        rw [typeText_opener, hcs, hb.aggregateSpan_eq, List.dropLast_concat]
      exact iff_of_true htext (Or.inl hcloses)
    | unclosed hn =>
      rw [typeText_opener, hn.aggregateSpan_eq, String.ofList_inj, aggregateWords_dropLast_iff]
      exact (or_iff_right (not_not.mpr hn)).symm
  · intro hn
    rw [typeText_opener, hn.aggregateSpan_eq]

/-- The tag of an aggregate that is never closed loses its last letter. -/
theorem not_all_tags_whole :
    typeText "\x7bFoo" = "struct Fo" ∧
    ¬ ∀ (k : AggregateKind) (cs body : List Char), k.Encloses cs body →
      typeText (String.ofList (k.opener :: cs)) = String.ofList (aggregateWords k.keyword (tagOf body)) := by
  refine ⟨rfl, fun h => ?_⟩
  have hopen : struct.NeverCloses "Foo".toList := by
    rintro body rest - hcs
    have hmem : '\x7d' ∈ "Foo".toList := by simp [hcs, closer]
    exact absurd hmem (by decide)
  have htext := h struct "Foo".toList "Foo".toList (.unclosed hopen)
  exact absurd htext (by decide)

end AggregateKind
end ObjcAtlas.TypeEncoding
