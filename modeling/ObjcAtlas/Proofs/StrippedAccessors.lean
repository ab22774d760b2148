import ObjcAtlas.Entity.Basic

/-! What is left of a class without synthesized members. Getters go, whatever they are called. A setter goes if its
selector, read backward, names a property: custom setters and those of capitalized names may stay, and methods that
set nothing may go. -/
namespace ObjcAtlas

namespace Text

def capitalized (s : String) : String := String.ofList (upperFirst s.toList)

def uncapitalized (s : String) : String := String.ofList (lowerFirst s.toList)

theorem lower_toUpper_ascii : ∀ n < 128,
    lower (Char.ofNat n).toUpper = [Char.ofNat n] ↔ (Char.ofNat n).isUpper = false := by
  decide

/-- A name whose first character is an ASCII one comes back from its capitalized form unless it is capitalized. -/
theorem uncapitalized_capitalized_iff {s : String} {c : Char} {cs : List Char} (hs : s.toList = c :: cs)
    (hc : c.toNat < 128) : uncapitalized (capitalized s) = s ↔ c.isUpper = false := by
  have hupper : upper c = [c.toUpper] := by simp [upper, hc]
  have hlower := lower_toUpper_ascii c.toNat hc
  rw [Char.ofNat_toNat] at hlower
  rw [← hlower, ← String.toList_inj, hs]
  have hcons : c :: cs = [c] ++ cs := rfl
  simp only [uncapitalized, capitalized, String.toList_ofList, hs, upperFirst, hupper, List.cons_append, List.nil_append,
    lowerFirst]
  rw [hcons, List.append_cancel_right_eq]

theorem dropFirst_eq_iff {c : Char} {s r : String} :
    dropFirst c s = r ↔ s = String.singleton c ++ r ∨ s = r ∧ ∀ q, s ≠ String.singleton c ++ q := by
  unfold dropFirst
  split
  · next hs =>
    have hne : ∀ q, s ≠ String.singleton c ++ q := by
      rintro q rfl
      simp at hs
    simp [hne]
  · next d ds hs =>
    have hcons : ∀ q, s = String.singleton c ++ q ↔ d = c ∧ String.ofList ds = q := by
      intro q
      rw [← String.toList_inj, hs, ← String.toList_inj]
      simp
    by_cases hd : d = c
    · simp [hcons, hd]
    · simp [hcons, hd]

end Text

open Text (capitalized uncapitalized)

theorem setterTarget_set (r : String) : setterTarget ("set" ++ r ++ ":") = uncapitalized r := by
  have hs : ("set" ++ r ++ ":").toList = 's' :: 'e' :: 't' :: (r.toList ++ [':']) := by simp
  simp [setterTarget, hs, uncapitalized]

theorem setterTarget_of_ne {selector : String} (h : ∀ r, selector ≠ "set" ++ r ++ ":") :
    setterTarget selector = selector := by
  unfold setterTarget
  split
  · next rest hs =>
    rw [if_neg]
    intro hl
    obtain ⟨r, rfl⟩ := List.getLast?_eq_some_iff.mp hl
    apply h (String.ofList r)
    rw [← String.toList_inj, hs]
    simp
  · rfl

namespace ObjcClass
variable {c : ObjcClass}

theorem mem_propertyNames {n : String} : n ∈ c.propertyNames ↔ ∃ p ∈ c.properties, p.name = n := List.mem_map

theorem mem_getterNames {n : String} : n ∈ c.getterNames ↔ ∃ p ∈ c.properties, n = p.name ∨ n = p.getterName := by
  rw [getterNames, List.mem_append, mem_propertyNames, List.mem_map, ← exists_or]
  apply exists_congr
  intro p
  rw [← and_or_left, eq_comm, eq_comm (a := p.getterName)]

/-- The selectors of instance methods that are taken for accessors. -/
def TakesAsAccessor (c : ObjcClass) (selector : String) : Prop :=
  selector ∈ c.getterNames ∨ ∃ r, selector = "set" ++ r ++ ":" ∧ uncapitalized r ∈ c.propertyNames

theorem synthesizes_iff {m : Method} : c.synthesizes m = true ↔ c.TakesAsAccessor m.name := by
  rw [synthesizes, Bool.or_eq_true, List.contains_iff_mem, List.contains_iff_mem, TakesAsAccessor]
  by_cases h : ∃ r, m.name = "set" ++ r ++ ":"
  · obtain ⟨r, hr⟩ := h
    rw [hr, setterTarget_set]
    simp
  · -- any other selector is compared as it is, and the names of properties are among those of getters
    have hother : ∀ r, m.name ≠ "set" ++ r ++ ":" := fun r hr => h ⟨r, hr⟩
    have hsub : m.name ∈ c.propertyNames → m.name ∈ c.getterNames := List.mem_append_left _
    rw [setterTarget_of_ne hother, or_iff_left_of_imp hsub, or_iff_left]
    rintro ⟨r, hr, -⟩
    exact hother r hr

theorem mem_instanceMethods_withoutSynthesized {m : Method} :
    m ∈ c.withoutSynthesized.instanceMethods ↔ m ∈ c.instanceMethods ∧ ¬ c.TakesAsAccessor m.name := by
  rw [withoutSynthesized, List.mem_filter, ← synthesizes_iff]
  simp

theorem mem_ivars_withoutSynthesized {v : Ivar} :
    v ∈ c.withoutSynthesized.ivars ↔ v ∈ c.ivars ∧ v.backedName ∉ c.propertyNames := by
  rw [withoutSynthesized, List.mem_filter]
  simp

/-- An instance variable with the name of a property goes unless that name is taken for the one behind another. -/
theorem backedName_eq {v : Ivar} {n : String} (h : v.name = n) :
    v.backedName = n ∧ (∀ s, n ≠ "_" ++ s) ∨ ∃ s, n = "_" ++ s ∧ v.backedName = s := by
  subst h
  by_cases h : ∃ s, v.name = "_" ++ s
  · obtain ⟨s, hs⟩ := h
    exact Or.inr ⟨s, hs, Text.dropFirst_eq_iff.mpr (Or.inl hs)⟩
  · have hother : ∀ s, v.name ≠ "_" ++ s := fun s hs => h ⟨s, hs⟩
    exact Or.inl ⟨Text.dropFirst_eq_iff.mpr (Or.inr ⟨rfl, hother⟩), hother⟩

end ObjcClass

/-- A property without a setter of its own gets one named after it. -/
theorem Property.setterName_of_none {p : Property} (hp : nonemptyText? p.setter = none) (hn : p.name ≠ "") :
    p.setterName = "set" ++ capitalized p.name ++ ":" := by
  have he : p.name.isEmpty = false := by simpa using hn
  rw [setterName, hp]
  simp [he, capitalized, ← String.toList_inj]

/-- Whether a selector is the name of a property or that of its getter or setter. -/
def Property.Names (p : Property) (selector : String) : Prop :=
  selector = p.name ∨ selector = p.getterName ∨ selector = p.setterName

namespace ObjcClass

/-- What is left beside a property. No getter of it is, and no variable with its name after an underscore. A variable of
its very name is left if that starts with an underscore and is no property without it; a method with the selector of its
setter is left if that is no name or getter and, read backward, names no property. So the setter goes if it is
derived from a name that comes back from its capitalized form, which one in ASCII does unless it is capitalized. -/
theorem withoutSynthesized_leaves (c : ObjcClass) {p : Property} (hp : p ∈ c.properties) :
    (∀ m ∈ c.withoutSynthesized.instanceMethods, m.name ≠ p.getterName) ∧
    (∀ v ∈ c.withoutSynthesized.ivars, v.name ≠ "_" ++ p.name) ∧
    (∀ v ∈ c.ivars, v.name = p.name →
      (v ∈ c.withoutSynthesized.ivars ↔ ∃ s, p.name = "_" ++ s ∧ s ∉ c.propertyNames)) ∧
    (∀ m ∈ c.instanceMethods, m.name = p.setterName →
      (m ∈ c.withoutSynthesized.instanceMethods ↔
        p.setterName ∉ c.getterNames ∧ ∀ r, p.setterName = "set" ++ r ++ ":" → uncapitalized r ∉ c.propertyNames)) ∧
    (nonemptyText? p.setter = none → uncapitalized (capitalized p.name) = p.name →
      ∀ m ∈ c.withoutSynthesized.instanceMethods, m.name ≠ p.setterName) ∧
    ∀ a cs, p.name.toList = a :: cs → a.toNat < 128 →
      (uncapitalized (capitalized p.name) = p.name ↔ a.isUpper = false) := by
  have hname : p.name ∈ c.propertyNames := mem_propertyNames.mpr ⟨p, hp, rfl⟩
  refine ⟨?_, ?_, ?_, ?_, ?_, ?_⟩
  · intro m hm hn
    apply (mem_instanceMethods_withoutSynthesized.mp hm).2
    exact Or.inl (mem_getterNames.mpr ⟨p, hp, Or.inr hn⟩)
  · intro v hv hn
    have hb : v.backedName = p.name := Text.dropFirst_eq_iff.mpr (Or.inl hn)
    exact (mem_ivars_withoutSynthesized.mp hv).2 (hb ▸ hname)
  · intro v hv hn
    rw [mem_ivars_withoutSynthesized, and_iff_right hv]
    rcases backedName_eq hn with ⟨hb, hother⟩ | ⟨s, hs, hb⟩
    · rw [hb]
      refine iff_of_false (fun h => h hname) ?_
      rintro ⟨s, hs, -⟩
      exact hother s hs
    · rw [hb]
      constructor
      · intro h
        exact ⟨s, hs, h⟩
      · rintro ⟨s', hs', h⟩
        obtain rfl := String.append_right_inj "_" |>.mp (hs.symm.trans hs')
        exact h
  · intro m hm hn
    rw [mem_instanceMethods_withoutSynthesized, and_iff_right hm, hn, TakesAsAccessor, not_or]
    simp only [not_exists, not_and]
  · intro hd hr m hm hn
    apply (mem_instanceMethods_withoutSynthesized.mp hm).2
    by_cases he : p.name = ""
    · have hs : p.setterName = p.name := by simp [Property.setterName, hd, he]
      exact Or.inl (mem_getterNames.mpr ⟨p, hp, Or.inl (hn.trans hs)⟩)
    · rw [hn, Property.setterName_of_none hd he]
      exact Or.inr ⟨capitalized p.name, rfl, hr.symm ▸ hname⟩
  · intro a cs hs ha
    exact Text.uncapitalized_capitalized_iff hs ha

/-! A property with a capitalized name and one with a setter of its own; a variable named like its property. -/
section Switches

def switches : ObjcClass where
  name := "A"
  properties := [{ name := "URL", type := some "id" }, { name := "on", type := some "BOOL", setter := some "turnOn:" }]
  instanceMethods := [{ name := "setURL:" }, { name := "turnOn:" }]

def underscored : ObjcClass where
  name := "A"
  ivars := [{ name := "_x", type := some "i" }]
  properties := [{ name := "_x", type := some "int" }]

theorem switches_leave :
    switches.properties[0] ∈ switches.properties ∧
    ({ name := "setURL:" } : Method) ∈ switches.withoutSynthesized.instanceMethods := by
  have hp : switches.properties[0] ∈ switches.properties := List.getElem_mem _
  refine ⟨hp, ?_⟩
  refine ((withoutSynthesized_leaves switches hp).2.2.2.1 { name := "setURL:" } (by decide) (by decide)).mpr ?_
  refine ⟨by decide, ?_⟩
  intro r hr
  have hset : "set" ++ "URL" ++ ":" = "set" ++ r ++ ":" := hr
  obtain rfl := (String.append_right_inj "set").mp ((String.append_left_inj ":").mp hset)
  decide

/-- A setter of a property may be left, and a variable with its name. -/
theorem not_all_synthesized_removed :
    (¬ ∀ (c : ObjcClass), ∀ p ∈ c.properties, ∀ m ∈ c.withoutSynthesized.instanceMethods, m.name ≠ p.setterName) ∧
    ¬ ∀ (c : ObjcClass), ∀ p ∈ c.properties, ∀ v ∈ c.withoutSynthesized.ivars, v.name ≠ p.name := by
  constructor
  · intro h
    exact h switches switches.properties[1] (by decide) { name := "turnOn:" } (by decide) (by decide)
  · intro h
    exact h underscored underscored.properties[0] (by decide) { name := "_x", type := some "i" } (by decide) rfl

end Switches

/-- Which instance methods go is told by their selectors alone, and the others keep their order and number. One that no
property names goes exactly if its selector has the form of a setter and, read backward, names a property. So a method
`set` followed by an uncapitalized name of a property always goes, although it sets nothing. -/
theorem withoutSynthesized_keeps (c : ObjcClass) :
    (∃ keeps : String → Bool,
      c.withoutSynthesized.instanceMethods = c.instanceMethods.filter (fun m => keeps m.name) ∧
      ∀ n, keeps n = false ↔ (∃ p ∈ c.properties, n = p.name ∨ n = p.getterName) ∨
        ∃ r, n = "set" ++ r ++ ":" ∧ ∃ p ∈ c.properties, p.name = uncapitalized r) ∧
    (∀ m ∈ c.instanceMethods, (∀ p ∈ c.properties, ¬ p.Names m.name) →
      (m ∉ c.withoutSynthesized.instanceMethods ↔
        ∃ r, m.name = "set" ++ r ++ ":" ∧ ∃ p ∈ c.properties, p.name = uncapitalized r)) ∧
    ∀ p ∈ c.properties, uncapitalized p.name = p.name →
      ∀ m ∈ c.withoutSynthesized.instanceMethods, m.name ≠ "set" ++ p.name ++ ":" := by
  refine ⟨⟨fun n => !c.synthesizes { name := n }, rfl, ?_⟩, ?_, ?_⟩
  · intro n
    rw [Bool.not_eq_false', synthesizes_iff, TakesAsAccessor, mem_getterNames]
    simp only [mem_propertyNames]
  · intro m hm hnames
    have hgetters : m.name ∉ c.getterNames := by
      rw [mem_getterNames]
      rintro ⟨p, hp, h | h⟩
      · exact hnames p hp (Or.inl h)
      · exact hnames p hp (Or.inr (Or.inl h))
    rw [mem_instanceMethods_withoutSynthesized, and_iff_right hm, Classical.not_not, TakesAsAccessor,
      or_iff_right hgetters]
    simp only [mem_propertyNames]
  · intro p hp hr m hm hn
    apply (mem_instanceMethods_withoutSynthesized.mp hm).2
    exact Or.inr ⟨p.name, hn, hr.symm ▸ mem_propertyNames.mpr ⟨p, hp, rfl⟩⟩

/-! A method whose selector has the form of a setter of `up` without being one. -/
section Fixture

def fixture : ObjcClass where
  name := "A"
  properties := [{ name := "up", type := some "BOOL" }]
  instanceMethods := [{ name := "setup:" }, { name := "setUp:" }, { name := "settle" }]

theorem fixture_keeps :
    (∀ p ∈ fixture.properties, ¬ p.Names "setup:") ∧
    ({ name := "setup:" } : Method) ∉ fixture.withoutSynthesized.instanceMethods := by
  have hnames : ∀ p ∈ fixture.properties, ¬ p.Names "setup:" := by
    intro p hp
    obtain rfl := List.mem_singleton.mp hp
    rintro (h | h | h)
    all_goals exact absurd h (by decide)
  refine ⟨hnames, ?_⟩
  refine ((withoutSynthesized_keeps fixture).2.1 { name := "setup:" } (by decide) hnames).mpr ?_
  exact ⟨"up", by decide, fixture.properties[0], by decide, by decide⟩

/-- A method may go that is no accessor of any property. -/
theorem not_all_removed_named :
    ¬ ∀ (c : ObjcClass), ∀ m ∈ c.instanceMethods, m ∉ c.withoutSynthesized.instanceMethods →
      ∃ p ∈ c.properties, p.Names m.name := by
  intro h
  obtain ⟨p, hp, hn⟩ := h fixture { name := "setup:" } (by decide) (by decide)
  obtain rfl := List.mem_singleton.mp hp
  rcases hn with hn | hn | hn
  all_goals exact absurd hn (by decide)

end Fixture

end ObjcClass
end ObjcAtlas
