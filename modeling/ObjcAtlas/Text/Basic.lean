/-! Cutting and joining character lists: trimming, splitting at one character, joining with a separator; and the blanks
that are stripped from texts. -/
namespace ObjcAtlas.Text

/-- Drops the trailing characters that satisfy `p`. -/
def trimEnd (p : Char → Bool) : List Char → List Char
  | [] => []
  | c :: cs =>
    match trimEnd p cs with
    | [] => if p c then [] else [c]
    | d :: ds => c :: d :: ds

/-- Drops the leading and trailing characters that satisfy `p`. -/
def trim (p : Char → Bool) (cs : List Char) : List Char := trimEnd p (cs.dropWhile p)

@[simp] theorem trimEnd_nil (p : Char → Bool) : trimEnd p [] = [] := rfl

/-- The pieces between the occurrences of `sep`; there is one more piece than occurrences. -/
def fields (sep : Char) : List Char → List (List Char)
  | [] => [[]]
  | c :: cs =>
    if c = sep then [] :: fields sep cs
    else match fields sep cs with
      | [] => [[c]]
      | f :: fs => (c :: f) :: fs

theorem fields_ne_nil (sep : Char) (cs : List Char) : fields sep cs ≠ [] := by
  cases cs with
  | nil => simp [fields]
  | cons c cs =>
    simp only [fields]
    split
    · simp
    · split <;> simp

/-- The texts in order with `sep` between neighbours. -/
def joinWith (sep : String) : List String → String
  | [] => ""
  | [s] => s
  | s :: rest => s ++ sep ++ joinWith sep rest

/-- Whether `suffix` ends the text; if so, what stands before it. -/
def dropSuffix? (suffix : String) (s : String) : Option String :=
  let cs := s.toList
  let k := suffix.toList.length
  if k ≤ cs.length ∧ cs.drop (cs.length - k) = suffix.toList then
    some (String.ofList (cs.take (cs.length - k)))
  else none

/-- The text without its first character, if that character is `c`. -/
def dropFirst (c : Char) (s : String) : String :=
  match s.toList with
  | [] => s
  | d :: ds => if d = c then String.ofList ds else s

/-- Whether `small` occurs in the character list. -/
def isInfix (small : List Char) : List Char → Bool
  | [] => small.isEmpty
  | c :: cs => small.isPrefixOf (c :: cs) || isInfix small cs

/-- The text with every `old` character replaced. -/
def replaceChar (old new : Char) (s : String) : String :=
  String.ofList (s.toList.map fun c => if c = old then new else c)

/-- Lines of a text, each with its terminating line feed; only a last line may lack one. -/
def linesKeepingEnds : List Char → List (List Char)
  | [] => []
  | c :: cs =>
    if c = '\n' then [c] :: linesKeepingEnds cs
    else match linesKeepingEnds cs with
      | [] => [[c]]
      | l :: ls => (c :: l) :: ls

/-- Carriage returns, alone or before a line feed, become line feeds. -/
def unifyLineEnds : List Char → List Char
  | [] => []
  | '\r' :: '\n' :: cs => '\n' :: unifyLineEnds cs
  | c :: cs => (if c = '\r' then '\n' else c) :: unifyLineEnds cs

/-- Blanks below 128 include the four separators `1c` to `1f`. -/
def isBlank (c : Char) : Bool :=
  let n := c.toNat
  (9 ≤ n && n ≤ 13) || (28 ≤ n && n ≤ 32) || n == 0x85 || n == 0xa0 || n == 0x1680
    || (0x2000 ≤ n && n ≤ 0x200a) || n == 0x2028 || n == 0x2029 || n == 0x202f || n == 0x205f
    || n == 0x3000

/-- The text without its leading and trailing blanks. -/
def strip (s : String) : String := String.ofList (trim isBlank s.toList)

end ObjcAtlas.Text
