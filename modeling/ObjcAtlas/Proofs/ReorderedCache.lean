import ObjcAtlas.Proofs.ReorderedMetadata
import ObjcAtlas.Proofs.TreeMatching

/-! Caches and files that hold reordered metadata: images taken from them are reordered binaries or the same
failure. -/
namespace ObjcAtlas

/-- One document, or the metadata of binaries that are reordered under any name. -/
inductive Document.Reordered : Document → Document → Prop
  | same (d : Document) : Reordered d d
  | metadata {f f' : List (String × Document)} (h : ∀ name, (Binary.mk name f).Reordered ⟨name, f'⟩) :
      Reordered (.object f) (.object f')

/-- Contents of files that are the same or encode reordered documents. -/
inductive ReorderedContent : ByteArray → ByteArray → Prop
  | same (c : ByteArray) : ReorderedContent c c
  | documents {c c' : ByteArray} {source source' : String} {d d' : Document} (hc : String.fromUTF8? c = some source)
      (hc' : String.fromUTF8? c' = some source') (hd : Document.read source = .ok d)
      (hd' : Document.read source' = .ok d') (h : d.Reordered d') : ReorderedContent c c'

section Loading
variable {C : Location → ByteArray → ByteArray → Prop} {t u : FileTree}

theorem Document.load_agree (hC : ∀ loc c d, C loc c d → ReorderedContent c d) (h : FileTree.Matches C t u) (p : Path)
    (unreadable : MetadataFault) :
    Agree Document.Reordered (Document.load t p unreadable) (Document.load u p unreadable) := by
  rw [load, load, FileTree.read, FileTree.read]
  rcases h.find_cases p with ⟨f, ht, hu⟩ | ⟨loc, n, n', ht, hu, hn⟩
  · rw [ht, hu]
    exact .refl .same _
  · rw [ht, hu]
    cases hn with
    | absent => exact .refl .same _
    | directory => exact .refl .same _
    | file hc =>
      cases hC loc _ _ hc with
      | same => exact .refl .same _
      | documents hc hc' hd hd' hr =>
        simp only [hc, hc', hd, hd']
        exact .ok hr

theorem Binary.ofDocument_agree (name : String) {d d' : Document} (h : d.Reordered d') :
    Agree Binary.Reordered (Binary.ofDocument name d) (Binary.ofDocument name d') := by
  cases h with
  | same d => exact .refl .refl _
  | metadata hf =>
    simp only [ofDocument, (hf name).field "name" (by decide)]
    exact .ok (hf _)

theorem Binary.load_agree (hC : ∀ loc c d, C loc c d → ReorderedContent c d) (h : FileTree.Matches C t u) (p : Path) :
    Agree Binary.Reordered (Binary.load t p) (Binary.load u p) := by
  refine (Document.load_agree hC h p _).bind fun d d' hd => ?_
  cases hd with
  | same d => exact .refl .refl _
  | @metadata f f' hf =>
    simp only [ofDocument, bind, Except.bind, ← (hf "").field "name" (by decide)]
    cases f.lookup "name" with
    | none => exact .ok (hf p.stem)
    | some e =>
      dsimp only
      split
      · exact .ok (hf p.stem)
      · exact .ok (hf _)

end Loading

/-- Image records of one name whose metadata, if they hold any, are reordered. -/
structure RecordReordered (d d' : Document) : Prop where
  name : d.field "name" = d'.field "name"
  metadata : Agree (Option.Rel Document.Reordered) (d.field? "metadata") (d'.field? "metadata")

/-- A value found under one name in each. -/
def Named {α β : Type} (R : α → β → Prop) (p : String × α) (q : String × β) : Prop := p.1 = q.1 ∧ R p.2 q.2

theorem lookup_of_forall₂ {α β : Type} {R : α → β → Prop} {xs : List (String × α)} {ys : List (String × β)}
    (h : List.Forall₂ (Named R) xs ys) (key : String) : Option.Rel R (xs.lookup key) (ys.lookup key) := by
  induction h with
  | nil => exact .none
  | @cons p q xs ys hpq _ ih =>
    obtain ⟨k, a⟩ := p
    obtain ⟨k', b⟩ := q
    obtain ⟨rfl, hab⟩ := hpq
    rw [List.lookup_cons, List.lookup_cons]
    cases key == k with
    | true => exact .some hab
    | false => exact ih

theorem put_forall₂ {α β : Type} {R : α → β → Prop} {xs : List (String × α)} {ys : List (String × β)}
    (h : List.Forall₂ (Named R) xs ys) (key : String) {a : α} {b : β} (hab : R a b) :
    List.Forall₂ (Named R) (Keyed.put key a xs) (Keyed.put key b ys) := by
  induction h with
  | nil => exact .cons ⟨rfl, hab⟩ .nil
  | @cons p q xs ys hpq hxs ih =>
    obtain ⟨k, a'⟩ := p
    obtain ⟨k', b'⟩ := q
    obtain ⟨rfl, hab'⟩ := hpq
    rw [Keyed.put, Keyed.put]
    split
    · exact .cons ⟨rfl, hab⟩ hxs
    · exact .cons ⟨rfl, hab'⟩ ih

namespace SharedCache

/-- Caches that agree but for the order of entities in the metadata of their images. Symbols and functions play no
part. -/
structure Reordered (c d : SharedCache) : Prop where
  base : c.base = d.base
  records : List.Forall₂ RecordReordered c.records d.records
  loaded : List.Forall₂ (Named Binary.Reordered) c.loaded d.loaded

theorem exactRecord?_agree {xs ys : List Document} (h : List.Forall₂ RecordReordered xs ys) (name : String) :
    Option.Rel (Named RecordReordered) (exactRecord? name xs) (exactRecord? name ys) := by
  induction h with
  | nil => exact .none
  | @cons d d' xs ys hd _ ih =>
    rw [exactRecord?, exactRecord?, hd.name]
    split
    · split
      · exact .some ⟨rfl, hd⟩
      · exact ih
    · exact ih

theorem baseRecord?_agree {xs ys : List Document} (h : List.Forall₂ RecordReordered xs ys) (base : String) :
    Agree (Option.Rel (Named RecordReordered)) (baseRecord? base xs) (baseRecord? base ys) := by
  induction h with
  | nil => exact .ok .none
  | @cons d d' xs ys hd _ ih =>
    rw [baseRecord?, baseRecord?, hd.name]
    split
    · split
      · exact .ok (.some ⟨rfl, hd⟩)
      · exact ih
    · exact .error _

theorem Reordered.findRecord {c d : SharedCache} (h : c.Reordered d) (name : String) :
    Agree (Named RecordReordered) (c.findRecord name) (d.findRecord name) := by
  rw [SharedCache.findRecord, SharedCache.findRecord]
  have he := exactRecord?_agree h.records name
  generalize exactRecord? name c.records = r at he ⊢
  generalize exactRecord? name d.records = r' at he ⊢
  cases he with
  | some hr => exact .ok hr
  | none =>
    refine (baseRecord?_agree h.records _).bind fun q q' hq => ?_
    cases hq with
    | some hr => exact .ok hr
    | none => exact .error _

section Images
variable {C : Location → ByteArray → ByteArray → Prop} {t u : FileTree}

theorem readBinary_agree (hC : ∀ loc c d, C loc c d → ReorderedContent c d) (h : FileTree.Matches C t u)
    {base base' : Path} (hb : base = base') (name : String) {d d' : Document} (hd : RecordReordered d d') :
    Agree Binary.Reordered (readBinary t base name d) (readBinary u base' name d') := by
  subst hb
  have hm := hd.metadata
  rw [readBinary, readBinary]
  generalize d.field? "metadata" = r at hm ⊢
  generalize d'.field? "metadata" = r' at hm ⊢
  cases hm with
  | error f => exact .refl .refl _
  | ok hm =>
    cases hm with
    | none => exact .refl .refl _
    | some hm =>
      cases hm with
      | metadata hf => exact Binary.ofDocument_agree _ (.metadata hf)
      | same =>
        rename_i e
        cases e with
        | null => exact .refl .refl _
        | object f => exact .refl .refl _
        | bool v => exact Binary.load_agree hC h _
        | int n => exact Binary.load_agree hC h _
        | real x => exact Binary.load_agree hC h _
        | text s => exact Binary.load_agree hC h _
        | list xs => exact Binary.load_agree hC h _

theorem Reordered.image (hC : ∀ loc c d, C loc c d → ReorderedContent c d) {c d : SharedCache} (h : c.Reordered d)
    (ht : FileTree.Matches C t u) (name : String) :
    Agree Binary.Reordered (c.image t name).1 (d.image u name).1 ∧ (c.image t name).2.Reordered (d.image u name).2 := by
  have hr := h.findRecord name
  rw [SharedCache.image, SharedCache.image]
  generalize c.findRecord name = r at hr ⊢
  generalize d.findRecord name = r' at hr ⊢
  cases hr with
  | error f => exact ⟨.error f, h⟩
  | @ok p q hpq =>
    obtain ⟨n, e⟩ := p
    obtain ⟨n', e'⟩ := q
    obtain ⟨rfl, he⟩ := hpq
    have hl := lookup_of_forall₂ h.loaded n
    dsimp only
    generalize c.loaded.lookup n = l at hl ⊢
    generalize d.loaded.lookup n = l' at hl ⊢
    cases hl with
    | some hb => exact ⟨.ok hb, h⟩
    | none =>
      have hb := readBinary_agree hC ht h.base n he
      dsimp only
      generalize readBinary t c.base n e = b at hb ⊢
      generalize readBinary u d.base n e' = b' at hb ⊢
      cases hb with
      | error f => exact ⟨.error f, h⟩
      | ok hb => exact ⟨.ok hb, { h with loaded := put_forall₂ h.loaded n hb }⟩

end Images
end SharedCache
end ObjcAtlas
