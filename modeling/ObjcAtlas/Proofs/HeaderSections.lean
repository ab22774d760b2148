import ObjcAtlas.Declaration
import ObjcAtlas.Header
import ObjcAtlas.Proofs.AdvanceNames
import ObjcAtlas.Proofs.FailingSteps
import ObjcAtlas.Proofs.TextPieces

/-! The sections of a header told from its text. Each of them may be missing and a declaration may start with the same
word as one in advance, yet headers of one style with the same text have the same guard, imports and body. -/
namespace ObjcAtlas

namespace Text
variable {l : String} {ls ls' : List String} {r r' : List Char}

/-- The lines with a line feed after each. -/
def ended (ls : List String) : List Char := ls.flatMap fun l => l.toList ++ ['\n']

@[simp] theorem ended_nil : ended [] = [] := rfl

@[simp] theorem ended_cons (l : String) (ls : List String) : ended (l :: ls) = l.toList ++ '\n' :: ended ls := by
  simp [ended]

@[simp] theorem ended_append (ls ls' : List String) : ended (ls ++ ls') = ended ls ++ ended ls' := List.flatMap_append

theorem toList_joinWith_lines (h : ls ≠ []) : (joinWith "\n" ls ++ "\n").toList = ended ls := by
  fun_induction joinWith "\n" ls with
  | case1 => exact absurd rfl h
  | case2 l => simp
  | case3 l ls hls ih =>
    have hrest : (joinWith "\n" ls).toList ++ ['\n'] = ended ls := by
      simpa using ih hls
    simp [hrest]

/-- A line that is not blank. -/
structure IsLine (l : String) : Prop where
  ne_empty : l ≠ ""
  not_mem : '\n' ∉ l.toList

theorem IsLine.append_ne (hl : IsLine l) (r r' : List Char) : l.toList ++ r ≠ '\n' :: r' := by
  intro h
  cases hcs : l.toList with
  | nil => exact hl.ne_empty (String.toList_eq_nil_iff.mp hcs)
  | cons c cs =>
    rw [hcs] at h
    obtain rfl := (List.cons.inj h).1
    exact hl.not_mem (hcs ▸ List.mem_cons_self)

/-- A block of lines reaches to the first blank one. -/
theorem block_inj (hls : ∀ l ∈ ls, IsLine l) (hls' : ∀ l ∈ ls', IsLine l)
    (h : ended ls ++ '\n' :: r = ended ls' ++ '\n' :: r') : ls = ls' ∧ r = r' := by
  induction ls generalizing ls' with
  | nil =>
    cases ls' with
    | nil => exact ⟨rfl, (List.cons.inj h).2⟩
    | cons l' ls' =>
      simp only [ended_nil, List.nil_append, ended_cons, List.append_assoc] at h
      exact absurd h.symm ((hls' l' List.mem_cons_self).append_ne _ _)
  | cons l ls ih =>
    cases ls' with
    | nil =>
      simp only [ended_nil, List.nil_append, ended_cons, List.append_assoc] at h
      exact absurd h ((hls l List.mem_cons_self).append_ne _ _)
    | cons l' ls' =>
      obtain ⟨hl, hrest⟩ := List.forall_mem_cons.mp hls
      obtain ⟨hl', hrest'⟩ := List.forall_mem_cons.mp hls'
      simp only [ended_cons, List.append_assoc, List.cons_append] at h
      obtain ⟨he, hmore⟩ := append_separator_inj hl.not_mem hl'.not_mem h
      obtain ⟨rfl, hr⟩ := ih hrest hrest' hmore
      exact ⟨by rw [String.toList_inj.mp he], hr⟩

/-- What follows an identifier is told by it, if it starts with a character that no identifier has. -/
theorem head_eq_of_isIdentifier {n m : List Char} {c d : Char} (hn : isIdentifier n = true)
    (hm : isIdentifier m = true) (hc : isIdentifierStart c = false ∧ isIdentifierPart c = false)
    (hd : isIdentifierStart d = false ∧ isIdentifierPart d = false) (h : n ++ c :: r = m ++ d :: r') : c = d := by
  rcases List.append_eq_append_iff.mp h with ⟨more, hmore, hrest⟩ | ⟨more, hmore, hrest⟩
  · cases more with
    | nil => exact (List.cons.inj hrest).1
    | cons e more =>
      obtain rfl := (List.cons.inj hrest).1
      exact absurd (hmore ▸ List.mem_append_right n List.mem_cons_self) (not_mem_of_isIdentifier hm hc.1 hc.2)
  · cases more with
    | nil => exact (List.cons.inj hrest).1.symm
    | cons e more =>
      obtain rfl := (List.cons.inj hrest).1
      exact absurd (hmore ▸ List.mem_append_right m List.mem_cons_self) (not_mem_of_isIdentifier hn hd.1 hd.2)

end Text

namespace Declaration
variable {header : String} {vs : List Ivar} {top : List String}

theorem toList_lines (l : String) (ls : List String) : (lines (l :: ls)).toList = l.toList ++ '\n' :: Text.ended ls := by
  rw [lines, Text.toList_joinWith_lines (List.cons_ne_nil l ls), Text.ended_cons]

theorem exists_of_opening_eq_ok (h : opening header vs = .ok top) : ∃ tail more, top = (header ++ tail) :: more := by
  cases vs with
  | nil =>
    obtain rfl := Except.ok.inj h
    exact ⟨"", [], by rw [String.append_empty]⟩
  | cons v vs =>
    obtain ⟨ivars, -, h⟩ := exists_of_bind_eq_ok h
    obtain rfl := Except.ok.inj h
    exact ⟨_, _, rfl⟩

theorem adopted_toList (names : List String) :
    (adopted names).toList = [] ∨ ∃ tail, (adopted names).toList = ' ' :: tail := by
  cases names with
  | nil => exact Or.inl rfl
  | cons n names => exact Or.inr ⟨_, by simp only [adopted, String.toList_append]; rfl⟩

end Declaration

namespace Header
open Text (ended IsLine)

/-- How a declaration starts: the name of a protocol is followed by a blank or by the end of its line. -/
inductive Opens : List Char → Prop
  | interface (r : List Char) : Opens ("@interface ".toList ++ r)
  | protocol {n : List Char} {c : Char} (hn : Text.isIdentifier n = true) (hc : c = ' ' ∨ c = '\n') (r : List Char) :
      Opens ("@protocol ".toList ++ (n ++ c :: r))

/-- How a declaration in advance starts: the name of a protocol is followed by another one or by a semicolon. -/
inductive Advances : List Char → Prop
  | classes (r : List Char) : Advances ("@class ".toList ++ r)
  | protocols {n : List Char} {c : Char} (hn : Text.isIdentifier n = true) (hc : c = ',' ∨ c = ';') (r : List Char) :
      Advances ("@protocol ".toList ++ (n ++ c :: r))

/-- A text that declares an entity; only the name of a protocol can be taken for part of a list. -/
inductive Declares : String → Prop
  | ofClass {c : ObjcClass} {body : String} (h : Declaration.ofClass c = .ok body) : Declares body
  | ofProtocol {p : ObjcProtocol} {body : String} (hn : Text.isIdentifier p.name.toList = true)
      (h : Declaration.ofProtocol p = .ok body) : Declares body
  | ofCategory {c : Category} {body : String} (h : Declaration.ofCategory c = .ok body) : Declares body

/-- A header of an entity with identifiers for all names in it. -/
structure WellNamed (h : Header) : Prop where
  not_umbrella : h.isUmbrella = false
  name : Text.isIdentifier h.name.toList = true
  frameworks : ∀ n ∈ h.imports.frameworks, Text.isIdentifier n.toList = true
  locals : ∀ l ∈ h.imports.locals, ∃ n, Text.isIdentifier n.toList = true ∧
    (l = HeaderName.ofClass n ∨ l = HeaderName.ofProtocol n)
  classes : ∀ n ∈ h.imports.classes, Text.isIdentifier n.toList = true
  protocols : ∀ n ∈ h.imports.protocols, Text.isIdentifier n.toList = true
  body : Declares h.body

section Starts
variable {cs : List Char}

theorem Opens.head?_eq (h : Opens cs) : cs.head? = some '@' := by
  cases h <;> rfl

theorem Advances.head?_eq (h : Advances cs) : cs.head? = some '@' := by
  cases h <;> rfl

/-- The two starts with one keyword differ in what follows the name. -/
theorem Opens.not_advances (ho : Opens cs) : ¬ Advances cs := by
  intro ha
  cases ho with
  | interface r =>
    generalize hcs : "@interface ".toList ++ r = cs at ha
    cases ha <;> simp at hcs
  | @protocol n c hn hc r =>
    generalize hcs : "@protocol ".toList ++ (n ++ c :: r) = cs at ha
    cases ha with
    | classes => simp at hcs
    | @protocols m d hm hd r' =>
      have hcd : c = d := by
        apply Text.head_eq_of_isIdentifier hn hm _ _ (List.append_cancel_left hcs)
        · rcases hc with rfl | rfl <;> decide
        · rcases hd with rfl | rfl <;> decide
      subst hcd
      rcases hc with rfl | rfl <;> simp at hd

theorem Declares.opens {body : String} (h : Declares body) (r : List Char) : Opens (body.toList ++ r) := by
  cases h with
  | @ofClass c _ h =>
    obtain ⟨top, htop, h⟩ := exists_of_bind_eq_ok h
    obtain ⟨properties, -, h⟩ := exists_of_bind_eq_ok h
    obtain rfl := Except.ok.inj h
    obtain ⟨tail, more, rfl⟩ := Declaration.exists_of_opening_eq_ok htop
    simp only [List.cons_append, Declaration.toList_lines, String.toList_append, List.append_assoc]
    exact .interface _
  | @ofProtocol p _ hn h =>
    obtain ⟨properties, -, h⟩ := exists_of_bind_eq_ok h
    obtain rfl := Except.ok.inj h
    simp only [List.cons_append, Declaration.toList_lines, String.toList_append, List.append_assoc]
    rcases Declaration.adopted_toList p.protocols with hnone | ⟨tail, hsome⟩
    · rw [hnone]
      exact .protocol hn (Or.inr rfl) _
    · rw [hsome]
      exact .protocol hn (Or.inl rfl) _
  | ofCategory h =>
    obtain ⟨properties, -, h⟩ := exists_of_bind_eq_ok h
    obtain rfl := Except.ok.inj h
    simp only [List.cons_append, Declaration.toList_lines, String.toList_append, List.append_assoc]
    exact .interface _

end Starts

section Sections
variable {ls ls' : List String} {r r' : List Char}

/-- The last line, with the end of the one before it. -/
def closing (h : Header) : List Char := '\n' :: ("#endif /* " ++ HeaderName.guard h.name ++ "_h */\n").toList

theorem toList_text (s : Style) (h : Header) : (h.text s).toList =
    ended (bannerLines s h) ++ (ended h.guardLines ++ (ended (frameworkLines s h) ++ '\n' ::
      (ended (paragraph h.localLines) ++ (ended (paragraph h.advanceLines) ++ (h.body.toList ++ h.closing))))) := by
  have hne : h.lines s ≠ [] := by simp [lines]
  rw [text, Text.toList_joinWith_lines hne, lines]
  simp [closing]

theorem not_mem_feed {n : String} (hn : Text.isIdentifier n.toList = true) : '\n' ∉ n.toList :=
  Text.not_mem_of_isIdentifier hn (by decide) (by decide)

theorem isLine_around {before after n : String} (hb : IsLine before) (hn : '\n' ∉ n.toList) (ha : '\n' ∉ after.toList) :
    IsLine (before ++ n ++ after) where
  ne_empty := by simp [hb.ne_empty]
  not_mem := by simp [hb.not_mem, hn, ha]

/-- A paragraph is told from what follows it by how it starts. -/
theorem paragraph_inj (Starts : List Char → Prop) (hls : ∀ l ∈ ls, IsLine l) (hls' : ∀ l ∈ ls', IsLine l)
    (hs : ls ≠ [] → ∀ t, Starts (ended ls ++ t)) (hs' : ls' ≠ [] → ∀ t, Starts (ended ls' ++ t))
    (hr : ¬ Starts r) (hr' : ¬ Starts r') (h : ended (paragraph ls) ++ r = ended (paragraph ls') ++ r') :
    ls = ls' ∧ r = r' := by
  have hcons {ls : List String} {r : List Char} (hne : ls ≠ []) :
      ended (paragraph ls) ++ r = ended ls ++ '\n' :: r := by
    simp [paragraph, hne]
  rcases eq_or_ne ls [] with rfl | hne
  · rcases eq_or_ne ls' [] with rfl | hne'
    · exact ⟨rfl, h⟩
    · rw [hcons hne'] at h
      change r = _ at h
      exact absurd (hs' hne' _) (h ▸ hr)
  · rcases eq_or_ne ls' [] with rfl | hne'
    · rw [hcons hne] at h
      change _ = r' at h
      exact absurd (hs hne _) (h ▸ hr')
    · rw [hcons hne, hcons hne'] at h
      exact Text.block_inj hls hls' h

variable {s : Style} {h k : Header}

/-- An identifier has no hyphen to be replaced. -/
theorem guard_of_isIdentifier {n : String} (hn : Text.isIdentifier n.toList = true) : HeaderName.guard n = n := by
  have hhyphen : '-' ∉ n.toList := Text.not_mem_of_isIdentifier hn (by decide) (by decide)
  have hkept : ∀ c ∈ n.toList, (if c = '-' then '_' else c) = c := fun c hc => if_neg (ne_of_mem_of_not_mem hc hhyphen)
  rw [HeaderName.guard, Text.replaceChar, List.map_congr_left hkept, List.map_id', String.ofList_toList]

theorem guardLines_inj (hname : Text.isIdentifier h.name.toList = true) (kname : Text.isIdentifier k.name.toList = true)
    (ht : ended h.guardLines ++ r = ended k.guardLines ++ r') :
    HeaderName.guard h.name = HeaderName.guard k.name ∧ r = r' := by
  have hfeed {h : Header} (hn : Text.isIdentifier h.name.toList = true) :
      '\n' ∉ ("#ifndef " ++ HeaderName.guard h.name ++ "_h").toList := by
    rw [guard_of_isIdentifier hn]
    exact (isLine_around ⟨by decide, by decide⟩ (not_mem_feed hn) (by decide)).not_mem
  simp only [guardLines, ended, List.flatMap_cons, List.append_assoc] at ht
  obtain ⟨hg, ht⟩ := Text.append_separator_inj (hfeed hname) (hfeed kname) ht
  have hguard : HeaderName.guard h.name = HeaderName.guard k.name := by
    simpa [String.append_left_inj, String.append_right_inj] using String.toList_inj.mp hg
  rw [hguard] at ht
  exact ⟨hguard, by simpa using ht⟩

/-- Lines that differ in a name only. -/
theorem map_around_injective (before after : String) :
    Function.Injective (List.map fun n => before ++ n ++ after) := by
  apply List.map_injective_iff.mpr
  intro m n h
  exact (String.append_right_inj _).mp ((String.append_left_inj _).mp h)

theorem frameworkLines_inj (hh : WellNamed h) (hk : WellNamed k)
    (ht : ended (frameworkLines s h) ++ '\n' :: r = ended (frameworkLines s k) ++ '\n' :: r') :
    h.imports.frameworks.filter (· ≠ s.rootFramework) = k.imports.frameworks.filter (· ≠ s.rootFramework) ∧
      r = r' := by
  have hlines {h : Header} (hh : WellNamed h) : ∀ l ∈ (h.imports.frameworks.filter (· ≠ s.rootFramework)).map
      fun f => "@import " ++ f ++ ";", IsLine l := by
    rw [List.forall_mem_map]
    intro n hn
    exact isLine_around ⟨by decide, by decide⟩ (not_mem_feed (hh.frameworks n (List.mem_of_mem_filter hn))) (by decide)
  simp only [frameworkLines, hh.not_umbrella, hk.not_umbrella, Bool.false_eq_true, if_false, List.map_cons,
    Text.ended_cons, List.append_assoc, List.cons_append, List.append_cancel_left_eq, List.cons.injEq, true_and] at ht
  obtain ⟨he, hr⟩ := Text.block_inj (hlines hh) (hlines hk) ht
  exact ⟨map_around_injective _ _ he, hr⟩

theorem WellNamed.isLine_of_mem_localLines (hh : WellNamed h) : ∀ l ∈ h.localLines, IsLine l := by
  rw [localLines, List.forall_mem_map]
  intro l hl
  apply isLine_around ⟨by decide, by decide⟩ _ (by decide)
  obtain ⟨n, hn, rfl | rfl⟩ := hh.locals l hl
  all_goals simp [HeaderName.ofClass, HeaderName.ofProtocol, not_mem_feed hn]

theorem localLines_inj (hh : WellNamed h) (hk : WellNamed k) (hr : r.head? = some '@') (hr' : r'.head? = some '@')
    (ht : ended (paragraph h.localLines) ++ r = ended (paragraph k.localLines) ++ r') :
    h.imports.locals = k.imports.locals ∧ r = r' := by
  have hstart {h : Header} (hne : h.localLines ≠ []) (t : List Char) :
      (ended h.localLines ++ t).head? = some '#' := by
    cases hl : h.imports.locals with
    | nil => simp [localLines, hl] at hne
    | cons l ls => simp [localLines, hl]
  obtain ⟨he, hrest⟩ := paragraph_inj (fun cs => cs.head? = some '#') hh.isLine_of_mem_localLines
    hk.isLine_of_mem_localLines hstart hstart (by simp [hr]) (by simp [hr']) ht
  exact ⟨map_around_injective _ _ he, hrest⟩

theorem ended_advance (keyword : String) {names : List String} (hne : names ≠ []) : ended (advance keyword names) =
    keyword.toList ++ ' ' :: ((Text.joinWith ", " names).toList ++ [';', '\n']) := by
  obtain ⟨n, ns, rfl⟩ := List.exists_cons_of_ne_nil hne
  simp [advance]

/-- The name of a protocol is followed by a comma or a semicolon; a line that starts with a class is not of protocols. -/
theorem WellNamed.advances (hh : WellNamed h) (hne : h.advanceLines ≠ []) (t : List Char) :
    Advances (ended h.advanceLines ++ t) := by
  unfold advanceLines at hne ⊢
  rcases eq_or_ne h.imports.classes [] with hclasses | hclasses
  · rw [hclasses, advance, List.nil_append] at hne ⊢
    cases hprotocols : h.imports.protocols with
    | nil => exact absurd (by rw [hprotocols, advance]) hne
    | cons n ns =>
      have hn := hh.protocols n (hprotocols ▸ List.mem_cons_self)
      cases ns with
      | nil =>
        simp only [advance, Text.joinWith, Text.ended_cons, String.toList_append, List.append_assoc]
        exact .protocols hn (Or.inr rfl) _
      | cons m ns =>
        simp only [advance, Text.joinWith, Text.ended_cons, String.toList_append, List.append_assoc]
        exact .protocols hn (Or.inl rfl) _
  · rw [Text.ended_append, ended_advance _ hclasses]
    simp only [List.append_assoc]
    exact .classes _

/-- Names in advance are told by their line. -/
theorem advance_inj {keyword : String} {names names' : List String}
    (hnames : ∀ n ∈ names, Text.isIdentifier n.toList = true) (hnames' : ∀ n ∈ names', Text.isIdentifier n.toList = true)
    (ht : advance keyword names = advance keyword names') : names = names' := by
  cases names with
  | nil =>
    cases names' with
    | nil => rfl
    | cons => cases ht
  | cons n ns =>
    cases names' with
    | nil => cases ht
    | cons m ms =>
      have hline := (List.cons.inj ht).1
      simp only [String.append_left_inj, String.append_right_inj] at hline
      have hsep : ", ".toList = ',' :: [' '] := rfl
      exact Text.joinWith_inj hsep (List.cons_ne_nil n ns) (List.cons_ne_nil m ms)
        (fun n hn => not_mem_comma (hnames n hn)) (fun n hn => not_mem_comma (hnames' n hn)) hline

/-- A line of classes is none of protocols. -/
theorem advance_append_inj {classes classes' protocols protocols' : List String}
    (ht : advance "@class" classes ++ advance "@protocol" protocols =
      advance "@class" classes' ++ advance "@protocol" protocols') :
    advance "@class" classes = advance "@class" classes' ∧
      advance "@protocol" protocols = advance "@protocol" protocols' := by
  have hkeyword (a b : String) : "@class" ++ " " ++ a ++ ";" ≠ "@protocol" ++ " " ++ b ++ ";" := by
    rw [Ne, ← String.toList_inj]
    simp
  -- each kind has one line at most, so the first line tells whether there are classes
  cases classes with
  | nil =>
    cases classes' with
    | nil => exact ⟨rfl, ht⟩
    | cons n ns =>
      cases protocols with
      | nil => cases ht
      | cons p ps => exact absurd (List.cons.inj ht).1.symm (hkeyword _ _)
  | cons n ns =>
    cases classes' with
    | nil =>
      cases protocols' with
      | nil => cases ht
      | cons p ps => exact absurd (List.cons.inj ht).1 (hkeyword _ _)
    | cons m ms =>
      obtain ⟨hline, hrest⟩ := List.cons.inj ht
      exact ⟨congrArg ([·]) hline, hrest⟩

theorem isLine_of_mem_advance {keyword l : String} {names : List String} (hk : IsLine keyword)
    (hnames : ∀ n ∈ names, Text.isIdentifier n.toList = true) (hl : l ∈ advance keyword names) : IsLine l := by
  cases names with
  | nil => cases hl
  | cons n ns =>
    obtain rfl := List.mem_singleton.mp hl
    have hsep : IsLine (keyword ++ " ") := ⟨by simp, by simp [hk.not_mem]⟩
    apply isLine_around hsep _ (by decide)
    rw [Text.mem_joinWith (by decide)]
    rintro ⟨m, hm, hfeed⟩
    exact not_mem_feed (hnames m hm) hfeed

theorem WellNamed.isLine_of_mem_advanceLines (hh : WellNamed h) : ∀ l ∈ h.advanceLines, IsLine l := by
  rw [advanceLines, List.forall_mem_append]
  exact ⟨fun l hl => isLine_of_mem_advance ⟨by decide, by decide⟩ hh.classes hl,
    fun l hl => isLine_of_mem_advance ⟨by decide, by decide⟩ hh.protocols hl⟩

theorem advanceLines_inj (hh : WellNamed h) (hk : WellNamed k) (hr : Opens r) (hr' : Opens r')
    (ht : ended (paragraph h.advanceLines) ++ r = ended (paragraph k.advanceLines) ++ r') :
    (h.imports.classes = k.imports.classes ∧ h.imports.protocols = k.imports.protocols) ∧ r = r' := by
  obtain ⟨he, hrest⟩ := paragraph_inj Advances hh.isLine_of_mem_advanceLines hk.isLine_of_mem_advanceLines hh.advances
    hk.advances hr.not_advances hr'.not_advances ht
  obtain ⟨hclasses, hprotocols⟩ := advance_append_inj he
  exact ⟨⟨advance_inj hh.classes hk.classes hclasses, advance_inj hh.protocols hk.protocols hprotocols⟩, hrest⟩

/-- Declarations, in advance or not, start with the same character. -/
theorem WellNamed.head?_advanceLines (hh : WellNamed h) (hr : Opens r) :
    (ended (paragraph h.advanceLines) ++ r).head? = some '@' := by
  rcases eq_or_ne h.advanceLines [] with hnil | hne
  · simpa [hnil, paragraph] using hr.head?_eq
  · have hstart := (hh.advances hne ('\n' :: r)).head?_eq
    simpa [paragraph, hne] using hstart

/-- Headers of one style and one banner have the same text exactly if their guards, their bodies and all that they bring
in are the same, apart from the framework that every header imports. -/
theorem text_eq_iff (hh : WellNamed h) (hk : WellNamed k) (htool : h.toolVersion = k.toolVersion)
    (hbuilds : h.buildVersions = k.buildVersions) (hsource : h.sourceVersion = k.sourceVersion) :
    h.text s = k.text s ↔
      HeaderName.guard h.name = HeaderName.guard k.name ∧
      h.imports.frameworks.filter (· ≠ s.rootFramework) = k.imports.frameworks.filter (· ≠ s.rootFramework) ∧
      h.imports.locals = k.imports.locals ∧ h.imports.classes = k.imports.classes ∧
      h.imports.protocols = k.imports.protocols ∧ h.body = k.body := by
  have hbanner : bannerLines s h = bannerLines s k := by
    rw [bannerLines, bannerLines, htool, hbuilds, hsource]
  constructor
  · intro ht
    rw [← String.toList_inj, toList_text, toList_text, hbanner, List.append_cancel_left_eq] at ht
    obtain ⟨hguard, ht⟩ := guardLines_inj hh.name hk.name ht
    obtain ⟨hframeworks, ht⟩ := frameworkLines_inj hh hk ht
    have hopens := hh.body.opens h.closing
    have kopens := hk.body.opens k.closing
    obtain ⟨hlocals, ht⟩ := localLines_inj hh hk (hh.head?_advanceLines hopens) (hk.head?_advanceLines kopens) ht
    obtain ⟨⟨hclasses, hprotocols⟩, ht⟩ := advanceLines_inj hh hk hopens kopens ht
    rw [closing, closing, hguard] at ht
    exact ⟨hguard, hframeworks, hlocals, hclasses, hprotocols, String.toList_inj.mp (List.append_cancel_right ht)⟩
  · rintro ⟨hguard, hframeworks, hlocals, hclasses, hprotocols, hbody⟩
    simp only [text, lines, hbanner, guardLines, frameworkLines, localLines, advanceLines, hh.not_umbrella,
      hk.not_umbrella, hguard, hframeworks, hlocals, hclasses, hprotocols, hbody]

end Sections

/-! Headers of a protocol that another one of the same module may adopt. -/
section Adopters

def adopterStyle : Style where
  toolName := "atlas"
  rootFramework := "Foundation"

def adopter (frameworks protocols : List String) : Header where
  path := {}
  toolVersion := "1.0"
  buildVersions := []
  sourceVersion := "0"
  name := "Rolling"
  body := "@protocol Rolling <Turning>\n\n@end\n"
  imports := { frameworks, locals := ["Axle.h", "Braking-Protocol.h"], protocols }

theorem wellNamed_adopter {frameworks protocols : List String}
    (hf : ∀ n ∈ frameworks, Text.isIdentifier n.toList = true)
    (hp : ∀ n ∈ protocols, Text.isIdentifier n.toList = true) : WellNamed (adopter frameworks protocols) where
  not_umbrella := rfl
  name := (by decide : Text.isIdentifier "Rolling".toList = true)
  frameworks := hf
  locals := List.forall_mem_cons.mpr ⟨⟨"Axle", by decide, Or.inl rfl⟩,
    List.forall_mem_singleton.mpr ⟨"Braking", by decide, Or.inr rfl⟩⟩
  classes := nofun
  protocols := hp
  body := .ofProtocol (p := { name := "Rolling", identity := 1, protocols := ["Turning"] }) (by decide) rfl

/-- An import of the root framework is not seen in the text; a protocol in advance is, before a body that starts with the
same word. -/
theorem adopter_told :
    (adopter ["Foundation", "UIKit"] ["Turning"]).text adopterStyle = (adopter ["UIKit"] ["Turning"]).text adopterStyle ∧
    (adopter ["UIKit"] ["Turning"]).text adopterStyle ≠ (adopter ["UIKit"] []).text adopterStyle := by
  have hrooted : WellNamed (adopter ["Foundation", "UIKit"] ["Turning"]) := wellNamed_adopter (by decide) (by decide)
  have hplain : WellNamed (adopter ["UIKit"] ["Turning"]) := wellNamed_adopter (by decide) (by decide)
  have hbare : WellNamed (adopter ["UIKit"] []) := wellNamed_adopter (by decide) nofun
  refine ⟨(text_eq_iff hrooted hplain rfl rfl rfl).mpr ⟨rfl, by decide, rfl, rfl, rfl, rfl⟩, fun h => ?_⟩
  obtain ⟨-, -, -, -, hprotocols, -⟩ := (text_eq_iff hplain hbare rfl rfl rfl).mp h
  exact absurd hprotocols (by decide)

end Adopters

end Header

end ObjcAtlas
