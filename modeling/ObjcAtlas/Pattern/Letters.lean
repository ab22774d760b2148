import ObjcAtlas.Text.Alphanumeric
import ObjcAtlas.Text.Basic
import ObjcAtlas.Text.Case

/-! The characters that one place of a pattern accepts: points, ranges and kinds, with or without regard to case.
Points are numbers, since a pattern may name one that is no character. -/
namespace ObjcAtlas

/-- How a pattern reads and matches letters. `ascii` confines kinds and case to ASCII. -/
structure Mode where
  ignoreCase : Bool := false
  multiLine : Bool := false
  dotAll : Bool := false
  verbose : Bool := false
  ascii : Bool := false
  /-- Kinds and case of all scripts are asked for. -/
  unicode : Bool := false
  /-- No repetition is allowed. -/
  plain : Bool := false
  deriving DecidableEq

namespace Pattern

inductive Kind where
  | digit
  | blank
  | word
  deriving DecidableEq

inductive Member where
  | point (n : Nat)
  | range (low high : Nat)
  | kind (k : Kind) (belongs : Bool)
  deriving DecidableEq

/-- What one place accepts. -/
structure Letters where
  members : List Member
  negated : Bool := false
  ignoreCase : Bool := false
  ascii : Bool := false
  deriving DecidableEq

def isAsciiLetter (n : Nat) : Bool := (65 ≤ n && n ≤ 90) || (97 ≤ n && n ≤ 122)

/-- Whether a letter has another case. -/
def isCased (ascii : Bool) (n : Nat) : Bool :=
  if ascii then isAsciiLetter n
  else
    let c := Char.ofNat n
    c.toNat == n && (Text.lower c != [c] || Text.upper c != [c])

/-- The lower case of a letter as one letter. -/
def fold (ascii : Bool) (n : Nat) : Nat :=
  if ascii then (if 65 ≤ n && n ≤ 90 then n + 32 else n)
  else
    let c := Char.ofNat n
    if c.toNat = n then ((Text.lower c).headD c).toNat else n

/-- The upper case of a letter, if it is one letter. -/
def raise (n : Nat) : Nat :=
  let c := Char.ofNat n
  match Text.upper c with
  | [d] => if c.toNat = n then d.toNat else n
  | _ => n

/-- Lower case letters that share an upper case one. -/
def siblings : List (List Nat) := [
  [0x69, 0x131], [0x73, 0x17f], [0xb5, 0x3bc], [0x345, 0x3b9, 0x1fbe], [0x390, 0x1fd3],
  [0x3b0, 0x1fe3], [0x3b2, 0x3d0], [0x3b5, 0x3f5], [0x3b8, 0x3d1], [0x3ba, 0x3f0], [0x3c0, 0x3d6],
  [0x3c1, 0x3f1], [0x3c2, 0x3c3], [0x3c6, 0x3d5], [0x432, 0x1c80], [0x434, 0x1c81],
  [0x43e, 0x1c82], [0x441, 0x1c83], [0x442, 0x1c84, 0x1c85], [0x44a, 0x1c86], [0x463, 0x1c87],
  [0x1c88, 0xa64b], [0x1e61, 0x1e9b], [0xfb05, 0xfb06]]

/-- Whether two folded letters are the same one without regard to case. -/
def sameFolded (ascii : Bool) (m n : Nat) : Bool :=
  m == n || (!ascii && siblings.any fun s => s.contains m && s.contains n)

def Kind.holds (ascii : Bool) (k : Kind) (n : Nat) : Bool :=
  let c := Char.ofNat n
  match k with
  | .digit => if ascii then c.isDigit else Text.isDecimal c
  | .blank => if ascii then n == 32 || (9 ≤ n && n ≤ 13) else Text.isBlank c
  | .word => if ascii then isAsciiLetter n || c.isDigit || c == '_' else Text.isWord c

/-- The last point of the basic plane. -/
def lastBasic : Nat := 0xffff

namespace Member

def holds (ascii : Bool) (n : Nat) : Member → Bool
  | .point m => m == n
  | .range low high => low ≤ n && n ≤ high
  | .kind k belongs => k.holds ascii n == belongs

/-- Whether some letter of the range satisfies `p`. -/
def anyFrom (p : Nat → Bool) (low : Nat) : Nat → Bool
  | 0 => false
  | k + 1 => p low || anyFrom p (low + 1) k

/-- Whether a member makes its set one in which case matters. -/
def isCased (ascii alone : Bool) : Member → Bool
  | .point m => Pattern.isCased ascii m || (!alone && m > lastBasic)
  | .range low high => high > lastBasic || anyFrom (Pattern.isCased ascii) low (high + 1 - low)
  | .kind _ _ => false

/-- Membership of a folded letter. Among other members a point beyond the basic plane stands for itself only, and
a range there for the letters in it by their own case or the upper one. -/
def holdsFolded (ascii alone : Bool) (n : Nat) : Member → Bool
  | .point m =>
    if !alone && m > lastBasic then m == n else sameFolded ascii (fold ascii m) n
  | .range low high =>
    anyFrom (fun m => sameFolded ascii (fold ascii m) n) low (min (high + 1) (lastBasic + 1) - low) ||
    (high > lastBasic && ((low ≤ n && n ≤ high) || (low ≤ raise n && raise n ≤ high)))
  | .kind k belongs => k.holds ascii n == belongs

end Member

namespace Letters

/-- Whether a character is accepted. Case counts unless it is to be ignored and some member has two. -/
def accepts (l : Letters) (c : Char) : Bool :=
  let alone := l.members.length == 1
  let inside :=
    if l.ignoreCase && l.members.any (Member.isCased l.ascii alone) then
      l.members.any (Member.holdsFolded l.ascii alone (fold l.ascii c.toNat))
    else l.members.any (Member.holds l.ascii c.toNat)
  inside != l.negated

end Letters
end Pattern
end ObjcAtlas
