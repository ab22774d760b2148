import ObjcAtlas.Numeral

/-! Binary floating-point numbers with 53 significant bits, held exactly: rounding a decimal to the nearest
one, the shortest decimal that reads back, and truncation to an integer. -/
namespace ObjcAtlas

/-- A finite value is `±significand · 2^exponent` with `significand < 2^53` and `exponent ≥ -1074`. -/
inductive Binary64 where
  | nan
  | infinite (negative : Bool)
  | finite (negative : Bool) (significand : Nat) (exponent : Int)
  deriving DecidableEq

namespace Binary64

/-- Powers of the two bases, by the recursion of the natural numbers. -/
def twoTo (n : Nat) : Nat := Nat.pow 2 n

def tenTo (n : Nat) : Nat := Nat.pow 10 n

/-- The quotient rounded to the nearest integer, a half to the even neighbour. -/
def roundDiv (num den : Nat) : Nat :=
  let q := num / den
  let r := num % den
  if 2 * r < den then q else if 2 * r > den then q + 1 else if q % 2 = 0 then q else q + 1

/-- `num/den · 2^(-e)` rounded to an integer. -/
def roundScaled (num den : Nat) (e : Int) : Nat :=
  roundDiv (num * twoTo (-e).toNat) (den * twoTo e.toNat)

/-- The exponent for which `num/den` has 53 bits before the point, but at least -1074. -/
def exponentFor (num den : Nat) : Int :=
  let guess : Int := (num.log2 : Int) - (den.log2 : Int) - 52
  let fits := num * twoTo (-guess).toNat ≥ den * twoTo guess.toNat * twoTo 52
  max (if fits then guess else guess - 1) (-1074)

/-- The nearest value to the positive quotient `num/den`. -/
def ofQuotient (negative : Bool) (num den : Nat) : Binary64 :=
  let e := exponentFor num den
  let m := roundScaled num den e
  let (m, e) := if m = twoTo 53 then (twoTo 52, e + 1) else (m, e)
  if e > 971 then .infinite negative else .finite negative m e

/-- The nearest value to `digits · 10^power`. -/
def ofDecimal (negative : Bool) (digits : Nat) (power : Int) : Binary64 :=
  let size : Int := (Nat.toDigits 10 digits).length + power
  if digits = 0 then .finite negative 0 (-1074)
  else if size > 310 then .infinite negative
  else if size < -330 then .finite negative 0 (-1074)
  else ofQuotient negative (digits * tenTo power.toNat) (tenTo (-power).toNat)

/-- The integer part, toward zero; none for a value that is not finite. -/
def truncate? : Binary64 → Option Int
  | .finite negative m e =>
    let n := m * twoTo e.toNat / twoTo (-e).toNat
    some (if negative then -(n : Int) else n)
  | _ => none

def isZero : Binary64 → Bool
  | .finite _ m _ => m == 0
  | _ => false

/-- The open or closed interval of rationals that round to a positive finite value, over a common
denominator: lower end, the value, upper end, denominator. -/
structure Cell where
  lower : Nat
  value : Nat
  upper : Nat
  den : Nat
  closed : Bool

def cell (m : Nat) (e : Int) : Cell :=
  let up := twoTo e.toNat
  let below := if m = twoTo 52 ∧ e > -1074 then 1 else 2
  ⟨(4 * m - below) * up, 4 * m * up, (4 * m + 2) * up, 4 * twoTo (-e).toNat, m % 2 == 0⟩

/-- Whether the rational `num/den` lies in the cell. -/
def Cell.holds (c : Cell) (num den : Nat) : Bool :=
  if c.closed then c.lower * den ≤ num * c.den && num * c.den ≤ c.upper * den
  else c.lower * den < num * c.den && num * c.den < c.upper * den

/-- The decimal grid point `k · 10^power` as a fraction. -/
def gridPoint (k : Nat) (power : Int) : Nat × Nat := (k * tenTo power.toNat, tenTo (-power).toNat)

/-- The point of the grid of multiples of `10^power` that reads back, nearest first, a tie to the even. -/
def Cell.onGrid? (c : Cell) (power : Int) : Option Nat :=
  let scaledNum := c.value * tenTo (-power).toNat
  let scaledDen := c.den * tenTo power.toNat
  let k := scaledNum / scaledDen
  let near := roundDiv scaledNum scaledDen
  let far := if near = k then k + 1 else k
  let fits (k : Nat) : Bool := let p := gridPoint k power; c.holds p.1 p.2
  if fits near then some near else if fits far then some far else none

/-- The decimal exponent of the value: `10^x ≤ value < 10^(x+1)`. -/
def Cell.magnitude (c : Cell) : Int :=
  if c.value ≥ c.den then ((Nat.toDigits 10 (c.value / c.den)).length : Int) - 1
  else
    let d := (Nat.toDigits 10 ((c.den + c.value - 1) / c.value)).length
    if c.value * tenTo (d - 1) ≥ c.den then -((d : Int) - 1) else -(d : Int)

/-- The first grid with a point that reads back, trying `count` digits, then more. -/
def Cell.search (c : Cell) (top : Int) : Nat → Nat → Nat × Int
  | _, 0 => (0, 0)
  | count, fuel + 1 =>
    let power := top - (count : Int) + 1
    match c.onGrid? power with
    | some k => (k, power)
    | none => c.search top (count + 1) fuel

/-- Removes trailing zeros from a digit list in reverse order. -/
def dropZeros (ds : List Char) : List Char :=
  match ds.reverse.dropWhile (· == '0') with
  | [] => ['0']
  | rest => rest.reverse

/-- Positional below `10^16` and from `10^-4` on, else with an exponent of at least two digits. -/
def layout (digits : List Char) (point : Int) : List Char :=
  if 0 < point ∧ point ≤ 16 then
    let whole := point.toNat
    if digits.length ≤ whole then
      digits ++ List.replicate (whole - digits.length) '0' ++ ['.', '0']
    else digits.take whole ++ ['.'] ++ digits.drop whole
  else if -4 < point ∧ point ≤ 0 then
    ['0', '.'] ++ List.replicate (-point).toNat '0' ++ digits
  else
    let x := point - 1
    let ex := Nat.toDigits 10 x.natAbs
    let mantissa := match digits with
      | [] => []
      | [d] => [d]
      | d :: ds => d :: '.' :: ds
    mantissa ++ ['e', if x < 0 then '-' else '+'] ++ (if ex.length < 2 then '0' :: ex else ex)

/-- The shortest decimal that reads back as the value. -/
def text : Binary64 → String
  | .nan => "nan"
  | .infinite negative => if negative then "-inf" else "inf"
  | .finite negative m e =>
    let sign := if negative then "-" else ""
    if m = 0 then sign ++ "0.0"
    else
      let c := cell m e
      let (k, power) := c.search c.magnitude 1 17
      let ds := Nat.toDigits 10 k
      sign ++ String.ofList (layout (dropZeros ds) ((ds.length : Int) + power))

end Binary64
end ObjcAtlas
