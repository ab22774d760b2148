import ObjcAtlas.Text.Alphanumeric

/-! Type encodings of the runtime read as C declarators: a base type and what follows the declared name. -/
namespace ObjcAtlas.TypeEncoding

/-- `long long` with suffix `[4]` declares `long long name[4]`. -/
structure Declarator where
  base : List Char
  suffix : List Char := []
  deriving DecidableEq

/-- The words for the one-letter types. -/
def simpleType? : Char → Option String
  | 'c' => some "char"
  | 'i' => some "int"
  | 's' => some "short"
  | 'l' => some "long"
  | 'q' => some "long long"
  | 'C' => some "unsigned char"
  | 'I' => some "unsigned int"
  | 'S' => some "unsigned short"
  | 'L' => some "unsigned long"
  | 'Q' => some "unsigned long long"
  | 'f' => some "float"
  | 'd' => some "double"
  | 'D' => some "long double"
  | 'B' => some "BOOL"
  | 'v' => some "void"
  | '*' => some "char *"
  | '#' => some "Class"
  | ':' => some "SEL"
  | '?' => some "void /* unknown */"
  | _ => none

/-- The words for the letters that qualify the type after them. -/
def qualifier? : Char → Option String
  | 'r' => some "const"
  | 'n' => some "in"
  | 'N' => some "inout"
  | 'o' => some "out"
  | 'O' => some "bycopy"
  | 'R' => some "byref"
  | 'V' => some "oneway"
  | 'A' => some "_Atomic"
  | _ => none

def endsWithStar (cs : List Char) : Bool := cs.getLast? == some '*'

/-- A pointer to `base`; stars are not parted by blanks. -/
def pointerTo (base : List Char) : List Char :=
  if endsWithStar base then base ++ ['*'] else base ++ [' ', '*']

/-- What is read of a quoted name: the text up to the closing quote and what follows it. -/
def quotedName (cs : List Char) : List Char × List Char :=
  (cs.takeWhile (· != '"'), (cs.dropWhile (· != '"')).drop 1)

/-- The type after an `@`: a block, a named class, a list of protocols, or any object. -/
def object : List Char → List Char × List Char
  | '?' :: cs => ("id /* block */".toList, cs)
  | '"' :: cs =>
    let (name, rest) := quotedName cs
    let base := match name with
      | [] => "id".toList
      | '<' :: _ => "id".toList ++ name
      | _ => pointerTo name
    (base, rest)
  | cs => ("id".toList, cs)

/-- The text of an aggregate after its opening bracket, with the bracket that closes it. Only brackets of
its own kind count, and none inside quotes. -/
def aggregateSpan (opener closer : Char) : Nat → Bool → List Char → List Char × List Char
  | _, _, [] => ([], [])
  | depth, true, c :: cs =>
    let (taken, rest) := aggregateSpan opener closer depth (c != '"') cs
    (c :: taken, rest)
  | depth, false, c :: cs =>
    if c = '"' then
      let (taken, rest) := aggregateSpan opener closer depth true cs
      (c :: taken, rest)
    else if c = opener then
      let (taken, rest) := aggregateSpan opener closer (depth + 1) false cs
      (c :: taken, rest)
    else if c = closer then
      if depth ≤ 1 then ([c], cs)
      else
        let (taken, rest) := aggregateSpan opener closer (depth - 1) false cs
        (c :: taken, rest)
    else
      let (taken, rest) := aggregateSpan opener closer depth false cs
      (c :: taken, rest)

/-- A structure or union is named by the text before the first equals sign, its last character being taken
for the closing bracket. -/
def aggregate (keyword : String) (opener closer : Char) (cs : List Char) : List Char × List Char :=
  let (taken, rest) := aggregateSpan opener closer 1 false cs
  let tag := taken.dropLast.takeWhile (· != '=')
  let base :=
    if tag = [] ∨ tag = ['?'] then keyword.toList ++ " \x7b /* anonymous */ \x7d".toList
    else keyword.toList ++ ' ' :: tag
  (base, rest)

/-- A type that holds no other one, by its first character. -/
def leaf (c : Char) (cs : List Char) : Declarator × List Char :=
  if c = '@' then let (base, rest) := object cs; (⟨base, []⟩, rest)
  else if c = '\x7b' then let (base, rest) := aggregate "struct" '\x7b' '\x7d' cs; (⟨base, []⟩, rest)
  else if c = '(' then let (base, rest) := aggregate "union" '(' ')' cs; (⟨base, []⟩, rest)
  else if c = 'b' then
    (⟨"unsigned int".toList, " : ".toList ++ cs.takeWhile Text.isDigit⟩, cs.dropWhile Text.isDigit)
  else match simpleType? c with
    | some word => (⟨word.toList, []⟩, cs)
    | none => (⟨"void /* ".toList ++ c :: " */".toList, []⟩, cs)

/-- Ends an array of the given bound, if one is open; its closing bracket may be missing. -/
def closeArray : Option (List Char) → Declarator × List Char → Declarator × List Char
  | none, r => r
  | some bound, (d, rest) =>
    (⟨d.base, '[' :: bound ++ ']' :: d.suffix⟩, match rest with
      | ']' :: cs => cs
      | cs => cs)

/-- Reads one type; `bound` holds the digits read so far of the bound of an array just opened. -/
def decode (bound : Option (List Char)) : List Char → Declarator × List Char
  | [] => closeArray bound (⟨"void".toList, []⟩, [])
  | c :: cs =>
    if bound.isSome && Text.isDigit c then decode (bound.map (· ++ [c])) cs
    else closeArray bound <|
      match qualifier? c with
      | some word =>
        let (d, rest) := decode none cs
        (⟨word.toList ++ ' ' :: d.base, d.suffix⟩, rest)
      | none =>
        if c = '^' then
          let (d, rest) := decode none cs
          (⟨pointerTo d.base, d.suffix⟩, rest)
        else if c = '[' then decode (some []) cs
        else leaf c cs

/-- The declarator of the type at the start of an encoding. -/
def declarator (encoding : String) : Declarator := (decode none encoding.toList).1

/-- The C type of an encoding, without a name. -/
def typeText (encoding : String) : String :=
  let d := declarator encoding
  String.ofList (d.base ++ d.suffix)

/-- The declaration of `name`; a star stands directly before it. -/
def declaration (encoding name : String) : String :=
  let d := declarator encoding
  String.ofList (d.base ++ (if endsWithStar d.base then [] else [' ']) ++ name.toList ++ d.suffix)

end ObjcAtlas.TypeEncoding
