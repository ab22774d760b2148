import Mathlib.Data.List.Nodup
import ObjcAtlas.AddressLookup
import ObjcAtlas.Proofs.WrittenDocuments

/-! The matches of a batch as JSON text. Fields that are zero or empty are left out, and still the text tells all: read
again, with zero and the empty text for what is missing, it gives the matches back. It breaks off before a number that
is too long. -/
namespace ObjcAtlas

namespace Keyed
variable {κ α : Type} [BEq κ] [LawfulBEq κ]

theorem lookup_filter {key : κ} {p : κ × α → Bool} {m : List (κ × α)} (hkeys : (m.map (·.1)).Nodup) :
    (m.filter p).lookup key = (m.lookup key).filter fun v => p (key, v) := by
  induction m with
  | nil => rfl
  | cons e rest ih =>
    obtain ⟨k, v⟩ := e
    obtain ⟨hk, hrest⟩ := List.nodup_cons.mp hkeys
    by_cases he : key = k
    · subst he
      have hnone : (rest.filter p).lookup key = none := by
        rw [List.lookup_eq_none_iff]
        intro f hf
        exact bne_iff_ne.mpr fun h => hk (List.mem_map.mpr ⟨f, List.mem_of_mem_filter hf, h.symm⟩)
      cases hp : p (key, v) <;> simp [Option.filter, hp, hnone]
    · have hb : (key == k) = false := by simpa using he
      cases hp : p (k, v) <;> simp [List.lookup_cons, hp, hb, ih hrest]

end Keyed

namespace Document

theorem exists_joinWith_cons (sep s : String) (rest : List String) :
    ∃ tail, Text.joinWith sep (s :: rest) = s ++ tail ∧ (rest ≠ [] → tail = sep ++ Text.joinWith sep rest) := by
  cases rest with
  | nil => exact ⟨"", String.append_empty.symm, absurd rfl⟩
  | cons r rest => exact ⟨_, String.append_assoc, fun _ => rfl⟩

/-! What is put out before a numeral that is too long is the beginning of the text. -/
mutual
theorem exists_write_eq_of_writeUntil? : ∀ {d : Document} {before : String}, d.writeUntil? = some before →
    ∃ rest, d.write = before ++ rest
  | .int n, before, h => by
    obtain ⟨-, rfl⟩ : ¬ (Numeral.decimal? n).isSome ∧ "" = before := by simpa [writeUntil?] using h
    exact ⟨_, String.empty_append.symm⟩
  | .list xs, before, h => by
    obtain ⟨-, rest, hrest⟩ := exists_items_eq_of_writeItemsUntil? (by simpa only [writeUntil?] using h)
    exact ⟨rest ++ "]", by rw [write, hrest, String.append_assoc]⟩
  | .object fields, before, h => by
    obtain ⟨-, rest, hrest⟩ := exists_fields_eq_of_writeFieldsUntil? (by simpa only [writeUntil?] using h)
    exact ⟨rest ++ "\x7d", by rw [write, hrest, String.append_assoc]⟩
theorem exists_items_eq_of_writeItemsUntil? : ∀ {xs : List Document} {mark before : String},
    writeItemsUntil? mark xs = some before →
      writeItems xs ≠ [] ∧ ∃ rest, mark ++ Text.joinWith ", " (writeItems xs) = before ++ rest
  | d :: ds, mark, before, h => by
    refine ⟨nofun, ?_⟩
    obtain ⟨tail, htail, hds⟩ := exists_joinWith_cons ", " (write d) (writeItems ds)
    rw [writeItems, htail]
    rw [writeItemsUntil?] at h
    split at h
    · next text hd =>
      obtain rfl := Option.some.inj h
      obtain ⟨rest, hrest⟩ := exists_write_eq_of_writeUntil? hd
      obtain ⟨n, rfl⟩ | hmark : (∃ n, d = .int n) ∨ markAhead mark d = mark := by cases d <;> simp [markAhead]
      · obtain ⟨-, rfl⟩ : ¬ (Numeral.decimal? n).isSome ∧ "" = text := by simpa [writeUntil?] using hd
        exact ⟨_, String.empty_append.symm⟩
      · exact ⟨rest ++ tail, by simp only [hmark, hrest, String.append_assoc]⟩
    · obtain ⟨text, htext, rfl⟩ := Option.map_eq_some_iff.mp h
      obtain ⟨hne, rest, hrest⟩ := exists_items_eq_of_writeItemsUntil? htext
      exact ⟨rest, by rw [hds hne, hrest, String.append_assoc, String.append_assoc]⟩
theorem exists_fields_eq_of_writeFieldsUntil? : ∀ {fields : List (String × Document)} {mark before : String},
    writeFieldsUntil? mark fields = some before →
      writeFields fields ≠ [] ∧ ∃ rest, mark ++ Text.joinWith ", " (writeFields fields) = before ++ rest
  | (key, d) :: others, mark, before, h => by
    refine ⟨nofun, ?_⟩
    obtain ⟨tail, htail, hothers⟩ := exists_joinWith_cons ", " (writeText key ++ ": " ++ write d) (writeFields others)
    rw [writeFields, htail]
    rw [writeFieldsUntil?] at h
    split at h
    · next text hd =>
      obtain rfl := Option.some.inj h
      obtain ⟨rest, hrest⟩ := exists_write_eq_of_writeUntil? hd
      exact ⟨rest ++ tail, by simp only [hrest, String.append_assoc]⟩
    · obtain ⟨text, htext, rfl⟩ := Option.map_eq_some_iff.mp h
      obtain ⟨hne, rest, hrest⟩ := exists_fields_eq_of_writeFieldsUntil? htext
      exact ⟨rest, by simp only [hothers hne, hrest, String.append_assoc]⟩
end

theorem writeFieldsUntil?_eq_none_iff {fields : List (String × Document)} {mark : String} :
    writeFieldsUntil? mark fields = none ↔ ∀ f ∈ fields, f.2.writeUntil? = none := by
  induction fields generalizing mark with
  | nil => exact iff_of_true rfl nofun
  | cons f rest ih =>
    rw [writeFieldsUntil?, List.forall_mem_cons]
    cases hf : writeUntil? f.2 with
    | none => simpa only [true_and, Option.map_eq_none_iff] using ih
    | some before => exact iff_of_false nofun fun h => nomatch h.1

theorem writeItemsUntil?_eq_none_iff {xs : List Document} {mark : String} :
    writeItemsUntil? mark xs = none ↔ ∀ d ∈ xs, d.writeUntil? = none := by
  induction xs generalizing mark with
  | nil => exact iff_of_true rfl nofun
  | cons d ds ih =>
    rw [writeItemsUntil?, List.forall_mem_cons]
    cases hd : writeUntil? d with
    | none => simpa only [true_and, Option.map_eq_none_iff] using ih
    | some before => exact iff_of_false nofun fun h => nomatch h.1

end Document

namespace FunctionMatch
variable {m : FunctionMatch} {key : String}

/-- The integer under a key, zero if the key is missing. -/
def integerAt? (key : String) (d : Document) : Option Int :=
  match d.field? key with
  | .ok none => some 0
  | .ok (some (.int n)) => some n
  | _ => none

/-- The text under a key, empty if the key is missing. -/
def textAt? (key : String) (d : Document) : Option String :=
  match d.field? key with
  | .ok none => some ""
  | .ok (some (.text s)) => some s
  | _ => none

def ofDocument? (d : Document) : Option FunctionMatch := do
  let address ← integerAt? "addr" d
  let start ← integerAt? "start" d
  let stop ← integerAt? "end" d
  let name ← textAt? "name" d
  let image ← textAt? "image" d
  return { address, start, stop, name, image }

/-- No number of the match has more decimal digits than a numeral may have. -/
def FitsDecimal (m : FunctionMatch) : Prop :=
  ∀ n ∈ [m.address, m.start, m.stop, m.stop - m.start], (Nat.toDigits 10 n.natAbs).length ≤ Numeral.decimalLimit

/-- The fields of a match before any is left out. -/
def allFields (m : FunctionMatch) : List (String × Document) :=
  [("addr", .int m.address), ("start", .int m.start), ("end", .int m.stop), ("size", .int m.size), ("name", .text m.name),
    ("image", .text m.image)]

theorem toDocument_eq (m : FunctionMatch) : m.toDocument = .object (m.allFields.filter fun f => !f.2.isBlankValue) := rfl

theorem nodup_keys (m : FunctionMatch) : (m.allFields.map (·.1)).Nodup := by
  simp [allFields]

theorem field?_toDocument (m : FunctionMatch) (key : String) :
    m.toDocument.field? key = .ok ((m.allFields.lookup key).filter fun v => !v.isBlankValue) := by
  rw [toDocument_eq, Document.field?, Keyed.lookup_filter m.nodup_keys]

/-- A number is left out exactly if it is zero. -/
theorem integerAt?_toDocument {n : Int} (h : m.allFields.lookup key = some (.int n)) :
    integerAt? key m.toDocument = some n := by
  rw [integerAt?, field?_toDocument, h]
  by_cases hn : n = 0
  · subst hn
    rfl
  · have hkept : (Document.int n).isBlankValue = false := beq_eq_false_iff_ne.mpr hn
    simp only [Option.filter, hkept]
    rfl

/-- A text is left out exactly if it is empty. -/
theorem textAt?_toDocument {s : String} (h : m.allFields.lookup key = some (.text s)) :
    textAt? key m.toDocument = some s := by
  rw [textAt?, field?_toDocument, h]
  by_cases hs : s = ""
  · subst hs
    rfl
  · have hkept : (Document.text s).isBlankValue = false := by simpa [Document.isBlankValue] using hs
    simp only [Option.filter, hkept]
    rfl

theorem ofDocument?_toDocument (m : FunctionMatch) : ofDocument? m.toDocument = some m := by
  have haddress : integerAt? "addr" m.toDocument = some m.address := integerAt?_toDocument rfl
  have hstart : integerAt? "start" m.toDocument = some m.start := integerAt?_toDocument rfl
  have hstop : integerAt? "end" m.toDocument = some m.stop := integerAt?_toDocument rfl
  have hname : textAt? "name" m.toDocument = some m.name := textAt?_toDocument rfl
  have himage : textAt? "image" m.toDocument = some m.image := textAt?_toDocument rfl
  simp [ofDocument?, haddress, hstart, hstop, hname, himage]

theorem integerAt?_size (m : FunctionMatch) : integerAt? "size" m.toDocument = some (m.stop - m.start) :=
  integerAt?_toDocument rfl

theorem FitsDecimal.lossless (h : m.FitsDecimal) : m.toDocument.Lossless := by
  rw [toDocument_eq]
  apply Document.Lossless.object
  · exact m.nodup_keys.sublist (List.filter_sublist.map _)
  · intro f hf
    have hall : ∀ f ∈ m.allFields, f.2.Lossless := by
      simp only [FitsDecimal, List.forall_mem_cons] at h
      obtain ⟨haddress, hstart, hstop, hsize, -⟩ := h
      simp only [allFields, List.forall_mem_cons]
      exact ⟨.int haddress, .int hstart, .int hstop, .int hsize, .text _, .text _, nofun⟩
    exact hall f (List.mem_of_mem_filter hf)

theorem FitsDecimal.isWritable (h : m.FitsDecimal) : m.isWritable = true := by
  rw [FunctionMatch.isWritable, List.all_eq_true]
  intro n hn
  simp [Numeral.decimal?, h n hn]

theorem isWritable_of_writeUntil? (h : m.toDocument.writeUntil? = none) : m.isWritable := by
  rw [toDocument_eq, Document.writeUntil?, Document.writeFieldsUntil?_eq_none_iff] at h
  -- a zero is left out, but it could be written as well
  have hnumber : ∀ n, (∃ key, (key, .int n) ∈ m.allFields) → (Numeral.decimal? n).isSome := by
    rintro n ⟨key, hn⟩
    by_cases h0 : n = 0
    · subst h0
      decide
    · have hkept : (key, Document.int n) ∈ m.allFields.filter fun f => !f.2.isBlankValue := by
        simpa [hn, Document.isBlankValue] using h0
      simpa [Document.writeUntil?, Option.isSome_iff_ne_none] using h _ hkept
  simp only [isWritable, List.all_cons, List.all_nil, Bool.and_true, Bool.and_eq_true]
  exact ⟨hnumber _ ⟨"addr", by simp [allFields]⟩, hnumber _ ⟨"start", by simp [allFields]⟩,
    hnumber _ ⟨"end", by simp [allFields]⟩, hnumber _ ⟨"size", by simp [allFields, size]⟩⟩

/-- Of matches that cannot all be written the beginning of their text is put out. -/
theorem exists_write_eq_of_writeAll {ms : List FunctionMatch} {f : Failure} (h : writeAll ms = .error f) :
    ∃ rest, (Document.list (ms.map toDocument)).write = writtenUntilFault ms ++ rest := by
  have hms : ¬ ms.all isWritable := by
    intro hw
    rw [writeAll, if_pos hw] at h
    cases h
  cases hu : (Document.list (ms.map toDocument)).writeUntil? with
  | none =>
    rw [Document.writeUntil?, Document.writeItemsUntil?_eq_none_iff, List.forall_mem_map] at hu
    exact absurd (List.all_eq_true.mpr fun m hm => isWritable_of_writeUntil? (hu m hm)) hms
  | some before =>
    rw [writtenUntilFault, hu]
    exact Document.exists_write_eq_of_writeUntil? hu

/-- Whatever is left out, the text of a batch tells every match of it, and the size of each. -/
theorem writeAll_rebuilt {ms : List FunctionMatch} (h : ∀ m ∈ ms, m.FitsDecimal) :
    ∃ text items, writeAll ms = .ok text ∧ Document.read text = .ok (.list items) ∧
      items.mapM ofDocument? = some ms ∧
      List.Forall₂ (fun d m => integerAt? "size" d = some (m.stop - m.start)) items ms := by
  have hwritable : ms.all isWritable = true := List.all_eq_true.mpr fun m hm => (h m hm).isWritable
  have hlossless : (Document.list (ms.map toDocument)).Lossless := by
    apply Document.Lossless.list
    intro d hd
    obtain ⟨m, hm, rfl⟩ := List.mem_map.mp hd
    exact (h m hm).lossless
  refine ⟨_, ms.map toDocument, if_pos hwritable, Document.read_write hlossless, ?_, ?_⟩
  · rw [List.mapM_map]
    simpa [Function.comp_def, ofDocument?_toDocument] using List.mapM_pure (m := Option) (l := ms) (f := id)
  · rw [List.forall₂_map_left_iff, List.forall₂_same]
    exact fun m _ => m.integerAt?_size

/-- Zeros and empty texts in every place, a negative number, a quote and a character beyond the basic plane. -/
def oddMatches : List FunctionMatch :=
  [{ address := 0, start := -5, stop := 3, name := "spin \"😀\"\n", image := "" },
    { address := 20, start := 7, stop := 7, name := "", image := "Mill" }]

theorem writeAll_oddMatches :
    (∀ m ∈ oddMatches, m.FitsDecimal) ∧ ∃ text items, writeAll oddMatches = .ok text ∧
      Document.read text = .ok (.list items) ∧ items.mapM ofDocument? = some oddMatches ∧
      List.Forall₂ (fun d m => integerAt? "size" d = some (m.stop - m.start)) items oddMatches := by
  have hfits : ∀ m ∈ oddMatches, m.FitsDecimal := by
    simp only [oddMatches, List.forall_mem_cons, FitsDecimal]
    decide
  exact ⟨hfits, writeAll_rebuilt hfits⟩

end FunctionMatch
end ObjcAtlas
