import ObjcAtlas.Document.Basic

/-! Reading documents from JSON text. Beyond the standard, `NaN` and the infinities are numbers. -/
namespace ObjcAtlas.Document

/-- Why a text is no document. -/
inductive ReadFault where
  | malformed
  /-- An integer numeral exceeds the length limit. -/
  | numeralTooLong
  deriving DecidableEq

def isSpace (c : Char) : Bool := c == ' ' || c == '\t' || c == '\n' || c == '\r'

def skipSpace (cs : List Char) : List Char := cs.dropWhile isSpace

/-- Four hexadecimal digits. -/
def codeUnit : List Char → Option (Nat × List Char)
  | a :: b :: c :: d :: cs => do
    let a ← Numeral.digitValue? 16 a
    let b ← Numeral.digitValue? 16 b
    let c ← Numeral.digitValue? 16 c
    let d ← Numeral.digitValue? 16 d
    return (((a * 16 + b) * 16 + c) * 16 + d, cs)
  | _ => none

def isHighHalf (n : Nat) : Bool := 0xd800 ≤ n && n ≤ 0xdbff
def isLowHalf (n : Nat) : Bool := 0xdc00 ≤ n && n ≤ 0xdfff

/-- The character of one code unit; a half without its partner becomes the replacement character. -/
def unitChar (n : Nat) : Char := if isHighHalf n || isLowHalf n then '\ufffd' else Char.ofNat n

/-- The character that a `\u` escape denotes; two halves join to one character. -/
def unicodeEscape (cs : List Char) : Option (Char × List Char) :=
  match codeUnit cs with
  | none => none
  | some (n, rest) =>
    if isHighHalf n then
      match rest with
      | '\\' :: 'u' :: rest' =>
        match codeUnit rest' with
        | some (m, rest'') =>
          if isLowHalf m then
            some (Char.ofNat (0x10000 + (n - 0xd800) * 0x400 + (m - 0xdc00)), rest'')
          else some (unitChar n, rest)
        | none => some (unitChar n, rest)
      | _ => some (unitChar n, rest)
    else some (unitChar n, rest)

/-- The character of a one-letter escape. -/
def letterEscape? : Char → Option Char
  | '"' => some '"'
  | '\\' => some '\\'
  | '/' => some '/'
  | 'b' => some '\x08'
  | 'f' => some '\x0c'
  | 'n' => some '\n'
  | 'r' => some '\r'
  | 't' => some '\t'
  | _ => none

/-- One character of a text after its opening quote, if the text does not end here. -/
def textChar : List Char → Option (Char × List Char)
  | [] => none
  | '\\' :: 'u' :: cs => unicodeEscape cs
  | '\\' :: c :: cs => (letterEscape? c).map fun d => (d, cs)
  | ['\\'] => none
  | c :: cs => if c.toNat < 32 then none else some (c, cs)

/-- The characters up to the closing quote. -/
def textBody : Nat → List Char → Option (List Char × List Char)
  | 0, _ => none
  | _ + 1, '"' :: cs => some ([], cs)
  | fuel + 1, cs => do
    let (c, rest) ← textChar cs
    let (body, rest) ← textBody fuel rest
    return (c :: body, rest)

def readText (cs : List Char) : Except ReadFault (String × List Char) :=
  match textBody (cs.length + 1) cs with
  | some (body, rest) => .ok (String.ofList body, rest)
  | none => .error .malformed

/-- The digits of a fraction after its point; a point without digits is not taken. -/
def fraction : List Char → List Char × List Char
  | '.' :: cs =>
    match cs.takeWhile Char.isDigit with
    | [] => ([], '.' :: cs)
    | ds => (ds, cs.dropWhile Char.isDigit)
  | cs => ([], cs)

/-- Digits as a number. -/
def digitsValue (ds : List Char) : Nat := ds.foldl (fun v c => v * 10 + (c.toNat - 48)) 0

/-- An exponent with its mark; a mark without digits is not taken. -/
def exponent? (cs : List Char) : Option (Int × List Char) :=
  match cs with
  | mark :: cs =>
    if mark = 'e' ∨ mark = 'E' then
      let (negative, ds) := match cs with
        | '+' :: r => (false, r)
        | '-' :: r => (true, r)
        | r => (false, r)
      match ds.takeWhile Char.isDigit with
      | [] => none
      | ex =>
        let n : Int := digitsValue ex
        some (if negative then -n else n, ds.dropWhile Char.isDigit)
    else none
  | [] => none

/-- The integer digits of a number: a zero alone, or digits that start with another one. -/
def wholePart : List Char → Option (List Char × List Char)
  | '0' :: cs => some (['0'], cs)
  | cs =>
    match cs.takeWhile Char.isDigit with
    | [] => none
    | ds => some (ds, cs.dropWhile Char.isDigit)

/-- A number after its sign: an integer unless a fraction or exponent follows. -/
def readNumber (negative : Bool) (cs : List Char) : Except ReadFault (Document × List Char) :=
  match wholePart cs with
  | none => .error .malformed
  | some (whole, rest) =>
    let (frac, rest') := fraction rest
    match frac, exponent? rest' with
    | [], none =>
      if whole.length ≤ Numeral.decimalLimit then
        let n : Int := digitsValue whole
        .ok (.int (if negative then -n else n), rest')
      else .error .numeralTooLong
    | frac, ex =>
      let (power, rest'') := ex.getD (0, rest')
      .ok (.real (Binary64.ofDecimal negative (digitsValue (whole ++ frac)) (power - frac.length)), rest'')

/-- What follows a literal word, if the text starts with it. -/
def afterWord? (word : List Char) (cs : List Char) : Option (List Char) :=
  if word.isPrefixOf cs then some (cs.drop word.length) else none

/-- The words that stand for values. -/
def words : List (String × Document) := [
  ("null", .null), ("true", .bool true), ("false", .bool false), ("NaN", .real .nan),
  ("Infinity", .real (.infinite false)), ("-Infinity", .real (.infinite true))]

def readWord (cs : List Char) : Option (Document × List Char) :=
  words.findSome? fun (w, d) => (afterWord? w.toList cs).map fun rest => (d, rest)

mutual
/-- A value at the start of the text; each step of fuel pays for one value or one item. -/
def readValue : Nat → List Char → Except ReadFault (Document × List Char)
  | 0, _ => .error .malformed
  | fuel + 1, cs =>
    match cs with
    | '"' :: rest => do
      let (s, rest) ← readText rest
      return (.text s, rest)
    | '[' :: rest =>
      match skipSpace rest with
      | ']' :: rest => .ok (.list [], rest)
      | rest => do
        let (xs, rest) ← readItems fuel rest
        return (.list xs, rest)
    | '{' :: rest =>
      match skipSpace rest with
      | '}' :: rest => .ok (.object [], rest)
      | rest => do
        let (fields, rest) ← readFields fuel [] rest
        return (.object fields, rest)
    | cs =>
      match readWord cs with
      | some r => .ok r
      | none =>
        match cs with
        | '-' :: rest => readNumber true rest
        | rest => readNumber false rest
/-- The items of a list that has at least one. -/
def readItems : Nat → List Char → Except ReadFault (List Document × List Char)
  | 0, _ => .error .malformed
  | fuel + 1, cs => do
    let (x, rest) ← readValue fuel cs
    match skipSpace rest with
    | ']' :: rest => return ([x], rest)
    | ',' :: rest =>
      let (xs, rest) ← readItems fuel (skipSpace rest)
      return (x :: xs, rest)
    | _ => .error .malformed
/-- The fields of an object that has at least one; of equal keys the last value counts. -/
def readFields : Nat → List (String × Document) → List Char → Except ReadFault (List (String × Document) × List Char)
  | 0, _, _ => .error .malformed
  | fuel + 1, fields, cs =>
    match cs with
    | '"' :: rest => do
      let (key, rest) ← readText rest
      match skipSpace rest with
      | ':' :: rest =>
        let (value, rest) ← readValue fuel (skipSpace rest)
        let fields := Keyed.put key value fields
        match skipSpace rest with
        | '}' :: rest => return (fields, rest)
        | ',' :: rest => readFields fuel fields (skipSpace rest)
        | _ => .error .malformed
      | _ => .error .malformed
    | _ => .error .malformed
end

/-- The document that a whole text denotes; only space may surround it. -/
def read (s : String) : Except ReadFault Document := do
  let cs := s.toList
  let (d, rest) ← readValue (2 * cs.length + 2) (skipSpace cs)
  match skipSpace rest with
  | [] => return d
  | _ => .error .malformed

end ObjcAtlas.Document
