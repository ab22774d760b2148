import ObjcAtlas.Proofs.TextPieces
import ObjcAtlas.TypeEncoding.Declarator

/-! How the decoder reads an encoding: what its first character decides and what is read after it. -/
namespace ObjcAtlas.TypeEncoding
variable {cs rest : List Char} {d : Declarator} {c : Char}

theorem isDigit_of_qualifier? {word : String} (h : qualifier? c = some word) : Text.isDigit c = false := by
  fun_cases qualifier? c with
  | case9 => simp_all [qualifier?]
  | _ => decide

theorem decode_qualifier {word : String} (hc : qualifier? c = some word) (h : decode none cs = (d, rest)) :
    decode none (c :: cs) = (⟨word.toList ++ ' ' :: d.base, d.suffix⟩, rest) := by
  rw [decode]
  simp [hc, h, closeArray]

theorem decode_pointer (h : decode none cs = (d, rest)) :
    decode none ('^' :: cs) = (⟨pointerTo d.base, d.suffix⟩, rest) := by
  rw [decode]
  simp [qualifier?, h, closeArray]

theorem decode_leaf (hq : qualifier? c = none) (hp : c ≠ '^') (ha : c ≠ '[') : decode none (c :: cs) = leaf c cs := by
  rw [decode]
  simp [hq, hp, ha, closeArray]

theorem decode_bound {bound : List Char} (hb : ∀ c ∈ bound, Text.isDigit c = true) (read rest : List Char) :
    decode (some read) (bound ++ rest) = decode (some (read ++ bound)) rest := by
  induction bound generalizing read with
  | nil => simp
  | cons c cs ih =>
    obtain ⟨hc, hcs⟩ := List.forall_mem_cons.mp hb
    rw [List.cons_append, decode]
    simp [hc, ih hcs]

theorem decode_some_cons (hc : Text.isDigit c = false) (read cs : List Char) :
    decode (some read) (c :: cs) = closeArray (some read) (decode none (c :: cs)) := by
  rw [decode, decode]
  simp [hc, closeArray]

/-- The bound is read up to the first character of the encoding inside, then that is read as if it stood alone. -/
theorem decode_array {bound : List Char} (hb : ∀ c ∈ bound, Text.isDigit c = true) (hc : Text.isDigit c = false)
    (h : decode none (c :: cs) = (d, ']' :: rest)) :
    decode none ('[' :: (bound ++ c :: cs)) = (⟨d.base, '[' :: bound ++ ']' :: d.suffix⟩, rest) := by
  have hread : decode (some []) (bound ++ c :: cs) = (⟨d.base, '[' :: bound ++ ']' :: d.suffix⟩, rest) := by
    rw [decode_bound hb, decode_some_cons hc, h]
    rfl
  rw [decode]
  simpa [qualifier?, closeArray] using hread

theorem endsWithStar_of_not_mem {base : List Char} (h : '*' ∉ base) : endsWithStar base = false := by
  rw [endsWithStar, beq_eq_false_iff_ne]
  intro hl
  exact h (List.mem_of_getLast? hl)

theorem pointerTo_of_not_mem {base : List Char} (h : '*' ∉ base) : pointerTo base = base ++ [' ', '*'] := by
  simp [pointerTo, endsWithStar_of_not_mem h]

theorem decode_object (cs : List Char) : decode none ('@' :: cs) = (⟨(object cs).1, []⟩, (object cs).2) :=
  decode_leaf rfl (by decide) (by decide)

/-- The words for an object with the given text in quotes. -/
def quotedWords : List Char → List Char
  | [] => "id".toList
  | '<' :: name => "id".toList ++ '<' :: name
  | name => pointerTo name

theorem quotedWords_of_not_mem {name : List Char} (hn : name ≠ []) (hl : '<' ∉ name) :
    quotedWords name = pointerTo name := by
  fun_cases quotedWords name with
  | case1 => exact absurd rfl hn
  | case2 name => exact absurd List.mem_cons_self hl
  | case3 => rfl

theorem quotedName_append {name : List Char} (hn : '"' ∉ name) (rest : List Char) :
    quotedName (name ++ '"' :: rest) = (name, rest) := by
  have hquote : ∀ c, ('"' :: rest).head? = some c → c = '"' := by simp
  rw [quotedName, Text.takeWhile_bne_append hn hquote, Text.dropWhile_bne_append hn hquote, List.drop_one, List.tail_cons]

theorem object_quoted {name : List Char} (hn : '"' ∉ name) (rest : List Char) :
    object ('"' :: (name ++ '"' :: rest)) = (quotedWords name, rest) := by
  unfold object
  simp only [quotedName_append hn]
  split
  · rfl
  · rfl
  · next hnil hangle =>
    fun_cases quotedWords name with
    | case1 => exact absurd rfl hnil
    | case2 name => exact absurd rfl (hangle name)
    | case3 => rfl

end ObjcAtlas.TypeEncoding
