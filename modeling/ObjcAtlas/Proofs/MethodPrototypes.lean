import Mathlib.Data.List.Infix
import ObjcAtlas.Declaration
import ObjcAtlas.Proofs.TextPieces
import ObjcAtlas.Proofs.WrappedPointers

/-! What a method prototype tells. Types may hold brackets of their own, components of a selector may be empty and types
may be missing, yet a prototype is that of one selector with one series of types only. -/
namespace ObjcAtlas

namespace Text
variable {b c r s : List Char}

/-- Every bracket is closed, and none before it is opened. -/
structure Balanced (cs : List Char) : Prop where
  of_prefix : ∀ p, p <+: cs → p.count ')' ≤ p.count '('
  total : cs.count '(' = cs.count ')'

instance : DecidablePred Balanced := fun cs =>
  decidable_of_iff ((∀ p ∈ cs.inits, p.count ')' ≤ p.count '(') ∧ cs.count '(' = cs.count ')')
    ⟨fun h => ⟨fun p hp => h.1 p ((List.mem_inits p cs).mpr hp), h.2⟩,
      fun h => ⟨fun p hp => h.of_prefix p ((List.mem_inits p cs).mp hp), h.total⟩⟩

theorem Balanced.not_prefix_close (hb : Balanced b) (hc : Balanced c) : ¬ b ++ [')'] <+: c := by
  intro h
  have hcount := hc.of_prefix _ h
  simp [hb.total] at hcount

/-- The bracket that closes a balanced text is found again. -/
theorem Balanced.append_close_inj (hb : Balanced b) (hc : Balanced c) (h : b ++ ')' :: r = c ++ ')' :: s) :
    b = c ∧ r = s := by
  rcases List.append_eq_append_iff.mp h with ⟨mid, hc', hr⟩ | ⟨mid, hb', hs⟩
  · cases mid with
    | nil => exact ⟨by simpa using hc'.symm, by simpa using hr⟩
    | cons d mid =>
      obtain ⟨rfl, -⟩ := List.cons.inj hr
      exact absurd ⟨mid, by rw [hc', List.append_assoc, List.singleton_append]⟩ (hb.not_prefix_close hc)
  · cases mid with
    | nil => exact ⟨by simpa using hb', by simpa using hs.symm⟩
    | cons d mid =>
      obtain ⟨rfl, -⟩ := List.cons.inj hs
      exact absurd ⟨mid, by rw [hb', List.append_assoc, List.singleton_append]⟩ (hc.not_prefix_close hb)

theorem length_fields (sep : Char) (cs : List Char) : (fields sep cs).length = cs.count sep + 1 := by
  induction cs with
  | nil => rfl
  | cons c cs ih =>
    rw [fields]
    by_cases hc : c = sep
    · simp [hc, ih]
    · have hcons : ∃ f fs, fields sep cs = f :: fs := List.exists_cons_of_ne_nil (fields_ne_nil sep cs)
      obtain ⟨f, fs, hf⟩ := hcons
      rw [if_neg hc, List.count_cons_of_ne hc, ← ih, hf]
      rfl

end Text

namespace Declaration
variable {index : Nat} {part : String} {parts types parts' types' : List String}

/-- A selector without its arguments: an identifier, or components, each an identifier or empty, with a colon after each. -/
inductive IsSelector : String → Prop
  | unary {name : String} (h : Text.isIdentifier name.toList = true) : IsSelector name
  | keyword {parts : List String} (hne : parts ≠ []) (h : ∀ p ∈ parts, p = "" ∨ Text.isIdentifier p.toList = true) :
      IsSelector (String.ofList (parts.flatMap fun p => p.toList ++ [':']))

section Segments

/-- The type in its brackets, nothing for a missing one. -/
def bracketed : Option String → List Char
  | some type => '(' :: (type.toList ++ [')'])
  | none => []

/-- A component with its argument. -/
def segmentText (index : Nat) (part : String) (type : Option String) : List Char :=
  part.toList ++ ':' :: (bracketed type ++ ("arg" ++ toString index).toList)

/-- What follows the return type of a method with arguments. -/
def argumentText (index : Nat) (parts types : List String) : List Char :=
  (Text.joinWith " " (selectorSegments index parts types) ++ ";").toList

theorem selectorSegments_cons (index : Nat) (part : String) (parts types : List String) :
    ∃ s, s.toList = segmentText index part types.head? ∧
      selectorSegments index (part :: parts) types = s :: selectorSegments (index + 1) parts types.tail := by
  cases types with
  | nil => exact ⟨_, by simp [segmentText, bracketed], rfl⟩
  | cons type types => exact ⟨_, by simp [segmentText, bracketed], rfl⟩

/-- Another segment follows after a blank, and a semicolon after the last one. -/
theorem argumentText_cons (index : Nat) (part : String) (parts types : List String) :
    argumentText index (part :: parts) types = segmentText index part types.head? ++
      (if parts = [] then [';'] else ' ' :: argumentText (index + 1) parts types.tail) := by
  obtain ⟨s, hs, he⟩ := selectorSegments_cons index part parts types
  rw [argumentText, he]
  cases parts with
  | nil => simp [selectorSegments, Text.joinWith, hs]
  | cons q qs =>
    obtain ⟨s', hs', he'⟩ := selectorSegments_cons (index + 1) q qs types.tail
    simp [argumentText, he', Text.joinWith, hs]

/-- An argument starts with its bracket or, without one, with its name. -/
theorem bracketed_append_inj {type type' : Option String} {r s : List Char}
    (ht : ∀ t ∈ type, Text.Balanced t.toList) (ht' : ∀ t ∈ type', Text.Balanced t.toList)
    (h : bracketed type ++ 'a' :: r = bracketed type' ++ 'a' :: s) : type = type' ∧ r = s := by
  cases type with
  | none =>
    cases type' with
    | none => exact ⟨rfl, (List.cons.inj h).2⟩
    | some t' => exact absurd (List.cons.inj h).1 (by decide)
  | some t =>
    cases type' with
    | none => exact absurd (List.cons.inj h).1 (by decide)
    | some t' =>
      simp only [bracketed, List.cons_append, List.append_assoc, List.cons.injEq, true_and] at h
      obtain ⟨he, hr⟩ := (ht t rfl).append_close_inj (ht' t' rfl) h
      exact ⟨congrArg some (String.toList_inj.mp he), (List.cons.inj hr).2⟩

theorem take_succ_eq_iff {types types' : List String} {n n' : Nat} :
    types.take (n + 1) = types'.take (n' + 1) ↔
      types.head? = types'.head? ∧ types.tail.take n = types'.tail.take n' := by
  cases types <;> cases types' <;> simp

/-- By induction on the components: each is read off with its argument, and what is left decides whether one follows. -/
theorem argumentText_inj (hne : parts ≠ []) (hne' : parts' ≠ []) (hparts : ∀ p ∈ parts, ':' ∉ p.toList)
    (hparts' : ∀ p ∈ parts', ':' ∉ p.toList) (htypes : ∀ t ∈ types, Text.Balanced t.toList)
    (htypes' : ∀ t ∈ types', Text.Balanced t.toList)
    (h : argumentText index parts types = argumentText index parts' types') :
    parts = parts' ∧ types.take parts.length = types'.take parts'.length := by
  induction parts generalizing index parts' types types' with
  | nil => exact absurd rfl hne
  | cons part parts ih =>
    obtain ⟨part', parts', rfl⟩ := List.exists_cons_of_ne_nil hne'
    obtain ⟨hpart, hrest⟩ := List.forall_mem_cons.mp hparts
    obtain ⟨hpart', hrest'⟩ := List.forall_mem_cons.mp hparts'
    have hhead : ∀ t ∈ types.head?, Text.Balanced t.toList := fun t ht => htypes t (List.mem_of_mem_head? ht)
    have hhead' : ∀ t ∈ types'.head?, Text.Balanced t.toList := fun t ht => htypes' t (List.mem_of_mem_head? ht)
    have htail : ∀ t ∈ types.tail, Text.Balanced t.toList := fun t ht => htypes t (List.mem_of_mem_tail ht)
    have htail' : ∀ t ∈ types'.tail, Text.Balanced t.toList := fun t ht => htypes' t (List.mem_of_mem_tail ht)
    have hname : ("arg" ++ toString index).toList = 'a' :: 'r' :: 'g' :: (toString index).toList := by simp
    rw [argumentText_cons, argumentText_cons, segmentText, segmentText, hname] at h
    simp only [List.append_assoc, List.cons_append] at h
    obtain ⟨he, hargument⟩ := Text.append_separator_inj hpart hpart' h
    obtain rfl : part = part' := String.toList_inj.mp he
    obtain ⟨htype, hend⟩ := bracketed_append_inj hhead hhead' hargument
    simp only [List.cons.injEq, true_and, List.append_cancel_left_eq] at hend
    by_cases hlast : parts = []
    · by_cases hlast' : parts' = []
      · subst hlast hlast'
        exact ⟨rfl, take_succ_eq_iff.mpr ⟨htype, by simp⟩⟩
      · simp [hlast, hlast'] at hend
    · by_cases hlast' : parts' = []
      · simp [hlast, hlast'] at hend
      · rw [if_neg hlast, if_neg hlast'] at hend
        obtain ⟨rfl, htake⟩ := ih hlast hlast' hrest hrest' htail htail' (List.cons.inj hend).2
        exact ⟨rfl, take_succ_eq_iff.mpr ⟨htype, htake⟩⟩

theorem selectorSegments_take (index : Nat) (parts types : List String) :
    selectorSegments index parts (types.take parts.length) = selectorSegments index parts types := by
  induction parts generalizing index types with
  | nil => simp [selectorSegments]
  | cons part parts ih =>
    cases types with
    | nil => rfl
    | cons type types => simp [selectorSegments, ih]

end Segments

section Prototypes
variable {name name' : String} {m n : Method} {b c : Bool}

theorem not_mem_colon_of_isIdentifier (h : Text.isIdentifier name.toList = true) : ':' ∉ name.toList :=
  Text.not_mem_of_isIdentifier h (by decide) (by decide)

theorem fields_components (h : ∀ p ∈ parts, ':' ∉ p.toList) :
    Text.fields ':' (parts.flatMap fun p => p.toList ++ [':']) = parts.map String.toList ++ [[]] := by
  induction parts with
  | nil => rfl
  | cons p parts ih =>
    obtain ⟨hp, hparts⟩ := List.forall_mem_cons.mp h
    simp [Text.fields_append_cons, Text.fields_of_not_mem hp, ih hparts]

/-- The name of a method is told by its components, if it has any. -/
theorem IsSelector.cases_parts (h : IsSelector name) :
    (selectorParts name = [] ∧ ':' ∉ name.toList) ∨
      (selectorParts name ≠ [] ∧ (∀ p ∈ selectorParts name, ':' ∉ p.toList) ∧
        name = String.ofList ((selectorParts name).flatMap fun p => p.toList ++ [':'])) := by
  cases h with
  | unary h =>
    have hcolon := not_mem_colon_of_isIdentifier h
    exact Or.inl ⟨by simp [selectorParts, Text.fields_of_not_mem hcolon], hcolon⟩
  | @keyword parts hne h =>
    have hcolon : ∀ p ∈ parts, ':' ∉ p.toList := by
      intro p hp
      rcases h p hp with rfl | hid
      · simp
      · exact not_mem_colon_of_isIdentifier hid
    have hparts : selectorParts (String.ofList (parts.flatMap fun p => p.toList ++ [':'])) = parts := by
      simp [selectorParts, fields_components hcolon]
    rw [hparts]
    exact Or.inr ⟨hne, hcolon, rfl⟩

theorem length_selectorParts (name : String) : (selectorParts name).length = name.toList.count ':' := by
  simp [selectorParts, Text.length_fields]

/-- A method with a selector and with balanced types. -/
structure Regular (m : Method) : Prop where
  selector : IsSelector m.name
  returns : ∀ t, m.returnType = some t → Text.Balanced t.toList
  arguments : ∀ t ∈ m.explicitArgumentTypes, Text.Balanced t.toList

theorem balanced_returnText (h : ∀ t, m.returnType = some t → Text.Balanced t.toList) :
    Text.Balanced (returnText m).toList := by
  have hid : Text.Balanced "id".toList := by decide
  unfold returnText nonemptyText?
  split
  · exact hid
  · cases hr : m.returnType with
    | none => exact hid
    | some t => exact h t hr

/-- What follows the return type. -/
def selectorText (m : Method) : List Char :=
  if selectorParts m.name = [] then m.name.toList ++ [';']
  else argumentText 0 (selectorParts m.name) m.explicitArgumentTypes

theorem toList_ofMethod (b : Bool) (m : Method) : (ofMethod b m).toList =
    (if b then '+' else '-') :: ' ' :: '(' :: ((returnText m).toList ++ ')' :: selectorText m) := by
  unfold ofMethod selectorText
  cases hparts : selectorParts m.name with
  | nil => cases b <;> simp
  | cons part parts => cases b <;> simp [argumentText]

theorem colon_mem_argumentText (hne : parts ≠ []) : ':' ∈ argumentText index parts types := by
  obtain ⟨part, parts, rfl⟩ := List.exists_cons_of_ne_nil hne
  simp [argumentText_cons, segmentText]

theorem Regular.selectorText_inj (hm : Regular m) (hn : Regular n) (h : selectorText m = selectorText n) :
    m.name = n.name ∧ m.explicitArgumentTypes.take (selectorParts m.name).length =
      n.explicitArgumentTypes.take (selectorParts n.name).length := by
  unfold selectorText at h
  rcases hm.selector.cases_parts with ⟨hnone, hcolon⟩ | ⟨hsome, hcolons, hname⟩
  · rcases hn.selector.cases_parts with ⟨hnone', -⟩ | ⟨hsome', -, -⟩
    · rw [if_pos hnone, if_pos hnone'] at h
      exact ⟨String.toList_inj.mp (List.append_cancel_right h), by simp [hnone, hnone']⟩
    · rw [if_pos hnone, if_neg hsome'] at h
      exact absurd (h ▸ colon_mem_argumentText hsome') (by simp [hcolon])
  · rcases hn.selector.cases_parts with ⟨hnone', hcolon'⟩ | ⟨hsome', hcolons', hname'⟩
    · rw [if_neg hsome, if_pos hnone'] at h
      exact absurd (h ▸ colon_mem_argumentText hsome) (by simp [hcolon'])
    · rw [if_neg hsome, if_neg hsome'] at h
      obtain ⟨hparts, htake⟩ := argumentText_inj hsome hsome' hcolons hcolons' hm.arguments hn.arguments h
      exact ⟨by rw [hname, hname', hparts], htake⟩

theorem selectorText_take (m : Method) : selectorText m =
    if selectorParts m.name = [] then m.name.toList ++ [';']
    else argumentText 0 (selectorParts m.name) (m.explicitArgumentTypes.take (selectorParts m.name).length) := by
  simp only [selectorText, argumentText, selectorSegments_take]

/-- A prototype tells its kind, its selector, its return type and the types of its arguments, those included that are
missing; nothing else of the method is in it. -/
theorem ofMethod_eq_iff (hm : Regular m) (hn : Regular n) :
    ofMethod b m = ofMethod c n ↔ b = c ∧ m.name = n.name ∧ returnText m = returnText n ∧
      m.explicitArgumentTypes.take (m.name.toList.count ':') =
        n.explicitArgumentTypes.take (n.name.toList.count ':') := by
  simp only [← length_selectorParts]
  constructor
  · intro h
    rw [← String.toList_inj, toList_ofMethod, toList_ofMethod] at h
    obtain ⟨hkind, h⟩ := List.cons.inj h
    simp only [List.cons.injEq, true_and] at h
    obtain ⟨hreturn, hselector⟩ :=
      (balanced_returnText hm.returns).append_close_inj (balanced_returnText hn.returns) h
    obtain ⟨hname, htake⟩ := hm.selectorText_inj hn hselector
    refine ⟨?_, hname, String.toList_inj.mp hreturn, htake⟩
    cases b <;> cases c <;> simp_all
  · rintro ⟨rfl, hname, hreturn, htake⟩
    rw [← String.toList_inj, toList_ofMethod, toList_ofMethod, hreturn, selectorText_take, selectorText_take, htake, hname]

/-- A method that returns any object, takes a block first and has no type for its second argument. -/
def turn : Method := { name := "turn::", returnType := some "", argumentTypes := ["id", "SEL", "void (^)(id)"] }

def turnAny : Method := { name := "turn::", returnType := some "id", argumentTypes := ["Wheel *", ":", "void (^)(id)"] }

theorem isSelector_turn : IsSelector "turn::" :=
  .keyword (List.cons_ne_nil "turn" [""]) (List.forall_mem_cons.mpr
    ⟨Or.inr (by decide), List.forall_mem_singleton.mpr (Or.inl rfl)⟩)

theorem turn_told : Regular turn ∧ Regular turnAny ∧ ofMethod false turn = ofMethod false turnAny ∧
    ofMethod false turn ≠ ofMethod true turnAny := by
  have hturn : Regular turn := ⟨isSelector_turn, by rintro _ ⟨⟩; decide, List.forall_mem_singleton.mpr (by decide)⟩
  have hany : Regular turnAny := ⟨isSelector_turn, by rintro _ ⟨⟩; decide, List.forall_mem_singleton.mpr (by decide)⟩
  refine ⟨hturn, hany, (ofMethod_eq_iff hturn hany).mpr (by decide), fun h => ?_⟩
  exact absurd ((ofMethod_eq_iff hturn hany).mp h).1 (by decide)

end Prototypes

end Declaration
end ObjcAtlas
