import ObjcAtlas.Text.Alphanumeric
import ObjcAtlas.Text.Basic

/-! Integer numerals: reading them in base ten, sixteen or by their own base mark, and writing them. -/
namespace ObjcAtlas.Numeral

/-- How the base of a numeral is told: fixed, or by the marks `0x`, `0o` and `0b`. -/
inductive Radix where
  | decimal
  | hexadecimal
  | marked
  deriving DecidableEq

/-- A decimal numeral has at most this many digits. -/
def decimalLimit : Nat := 4300

/-- Decimal digits of any script count as the ASCII ones, blanks of any script as a space. -/
def canonicalChar (c : Char) : Char :=
  if c.toNat < 127 then c
  else if Text.isBlank c then ' '
  else match Text.decimalValue? c with
    | some d => Char.ofNat (48 + d)
    | none => c

/-- The blanks that may surround a numeral. -/
def isPadding (c : Char) : Bool := c == ' ' || (9 ≤ c.toNat && c.toNat ≤ 13)

/-- The value of a digit of bases up to sixteen. -/
def digitValue? (base : Nat) (c : Char) : Option Nat :=
  let v :=
    if '0' ≤ c ∧ c ≤ '9' then c.toNat - 48
    else if 'a' ≤ c ∧ c ≤ 'f' then c.toNat - 87
    else if 'A' ≤ c ∧ c ≤ 'F' then c.toNat - 55
    else 16
  if v < base then some v else none

/-- Digits with single underscores between them, continuing a numeral of value `v` and `n` digits:
the new value and count, and what follows. -/
def scan (base v n : Nat) : List Char → Option (Nat × Nat × List Char)
  | [] => some (v, n, [])
  | '_' :: c :: cs =>
    match digitValue? base c with
    | some d => scan base (v * base + d) (n + 1) cs
    | none => none
  | c :: cs =>
    match digitValue? base c with
    | some d => scan base (v * base + d) (n + 1) cs
    | none => if c = '_' then none else some (v, n, c :: cs)

/-- As `scan`, but at least one digit is read. -/
def scanDigits (base : Nat) : List Char → Option (Nat × Nat × List Char)
  | [] => none
  | c :: cs =>
    match digitValue? base c with
    | some d => scan base d 1 cs
    | none => none

/-- The base that a mark after a leading zero stands for. -/
def markBase? (c : Char) : Option Nat :=
  if c = 'x' ∨ c = 'X' then some 16
  else if c = 'o' ∨ c = 'O' then some 8
  else if c = 'b' ∨ c = 'B' then some 2
  else none

/-- After a base mark one underscore may stand. -/
def dropUnderscore : List Char → List Char
  | '_' :: cs => cs
  | cs => cs

/-- Decimal digits, within the length limit. -/
def decimalMagnitude (cs : List Char) : Option (Nat × List Char) :=
  match scanDigits 10 cs with
  | some (v, n, rest) => if n ≤ decimalLimit then some (v, rest) else none
  | none => none

/-- Digits of a base that needs no length limit. -/
def markedMagnitude (base : Nat) (cs : List Char) : Option (Nat × List Char) :=
  (scanDigits base (dropUnderscore cs)).map fun (v, _, rest) => (v, rest)

/-- The digits after the sign. A marked numeral without a mark is decimal and has no leading zero
unless it is zero. -/
def magnitude : Radix → List Char → Option (Nat × List Char)
  | .decimal, cs => decimalMagnitude cs
  | .hexadecimal, '0' :: m :: cs =>
    if m = 'x' ∨ m = 'X' then markedMagnitude 16 cs
    else (scanDigits 16 ('0' :: m :: cs)).map fun (v, _, rest) => (v, rest)
  | .hexadecimal, cs => (scanDigits 16 cs).map fun (v, _, rest) => (v, rest)
  | .marked, '0' :: m :: cs =>
    match markBase? m with
    | some base => markedMagnitude base cs
    | none =>
      match decimalMagnitude ('0' :: m :: cs) with
      | some (v, rest) => if v = 0 then some (v, rest) else none
      | none => none
  | .marked, cs => decimalMagnitude cs

/-- A numeral with its sign; padding may follow, nothing else. -/
def signed (radix : Radix) (cs : List Char) : Option Int :=
  let (negative, digits) := match cs with
    | '+' :: r => (false, r)
    | '-' :: r => (true, r)
    | r => (false, r)
  match magnitude radix digits with
  | some (v, rest) =>
    if rest.all isPadding then some (if negative then -(v : Int) else (v : Int)) else none
  | none => none

/-- The integer a text denotes, if it is a numeral. -/
def read? (radix : Radix) (s : String) : Option Int :=
  signed radix ((s.toList.map canonicalChar).dropWhile isPadding)

/-- The lower case digit of a value below sixteen. -/
def hexDigit (d : Nat) : Char := if d < 10 then Char.ofNat (48 + d) else Char.ofNat (87 + d)

/-- Hexadecimal digits of `n`, without leading zeros. -/
def hexDigits (n : Nat) : List Char := Nat.toDigits 16 n

/-- The last `width` hexadecimal digits of `n`. -/
def hexPadded : Nat → Nat → List Char
  | 0, _ => []
  | width + 1, n => hexPadded width (n / 16) ++ [hexDigit (n % 16)]

/-- Hexadecimal digits with a sign but no mark, such as `-1f`. -/
def bareHex (n : Int) : String :=
  (if n < 0 then "-" else "") ++ String.ofList (hexDigits n.natAbs)

/-- Marked hexadecimal, such as `0x1f` or `-0x1f`. -/
def hex (n : Int) : String :=
  (if n < 0 then "-0x" else "0x") ++ String.ofList (hexDigits n.natAbs)

/-- Decimal digits with a sign. -/
def decimal (n : Int) : String :=
  (if n < 0 then "-" else "") ++ String.ofList (Nat.toDigits 10 n.natAbs)

/-- The decimal text, if it is within the length limit for numerals. -/
def decimal? (n : Int) : Option String :=
  if (Nat.toDigits 10 n.natAbs).length ≤ decimalLimit then some (decimal n) else none

end ObjcAtlas.Numeral
