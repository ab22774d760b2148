import ObjcAtlas.Pattern.Basic

/-! Searching a text for a pattern by backtracking: a matcher tries its ways in order and goes on with each until
what follows matches too. -/
namespace ObjcAtlas.Pattern

/-- A place in a text and the texts of the groups matched so far; `before` runs backwards. -/
structure Cursor where
  before : List Char
  after : List Char
  groups : List (Nat × List Char) := []
  deriving DecidableEq

abbrev Matcher := Cursor → (Cursor → Option Cursor) → Option Cursor

namespace Cursor

/-- Takes one character that `p` accepts. -/
def take? (p : Char → Bool) (c : Cursor) : Option Cursor :=
  match c.after with
  | [] => none
  | x :: rest => if p x then some ⟨x :: c.before, rest, c.groups⟩ else none

/-- Takes the given characters, compared by `same`. -/
def takeAll? (same : Char → Char → Bool) : List Char → Cursor → Option Cursor
  | [], c => some c
  | x :: xs, c => (c.take? (same x)).bind (takeAll? same xs)

/-- Goes back over `n` characters. -/
def back? (n : Nat) (c : Cursor) : Option Cursor :=
  if n ≤ c.before.length then
    some ⟨c.before.drop n, (c.before.take n).reverse ++ c.after, c.groups⟩
  else none

/-- The characters passed on the way to a later place. -/
def passed (c d : Cursor) : List Char := c.after.take (c.after.length - d.after.length)

def record (number : Nat) (text : List Char) (c : Cursor) : Cursor :=
  { c with groups := (number, text) :: c.groups }

end Cursor

def isWordAt (ascii : Bool) : List Char → Bool
  | [] => false
  | c :: _ => Kind.holds ascii .word c.toNat

/-- Whether a cursor stands at an anchor. An empty text has no edges of words and no places that are none. -/
def Anchor.holds (c : Cursor) : Anchor → Bool
  | .textStart => c.before.isEmpty
  | .lineStart => c.before.isEmpty || c.before.head? == some '\n'
  | .textEnd => c.after.isEmpty
  | .lastLineEnd => c.after.isEmpty || c.after == ['\n']
  | .lineEnd => c.after.isEmpty || c.after.head? == some '\n'
  | .wordEdge ascii within =>
    !(c.before.isEmpty && c.after.isEmpty) &&
      ((isWordAt ascii c.before != isWordAt ascii c.after) == within)

/-- The first result of two. -/
def firstOf (r : Option Cursor) (other : Unit → Option Cursor) : Option Cursor :=
  match r with
  | some c => some c
  | none => other ()

namespace Matcher

/-- Exactly `n` times. -/
def times (m : Matcher) : Nat → Matcher
  | 0, c, k => k c
  | n + 1, c, k => m c fun d => times m n d k

/-- Up to `n` times, as often as possible first. A repetition that started at the same place, `last`, is the
last one; places are told apart by the length of the text after them. -/
def greedy (m : Matcher) : Nat → Option Nat → Matcher
  | 0, _, c, k => k c
  | n + 1, last, c, k =>
    if last = some c.after.length then k c
    else firstOf (m c fun d => greedy m n (some c.after.length) d k) fun _ => k c

/-- Up to `n` times, as seldom as possible first. -/
def lazy (m : Matcher) : Nat → Option Nat → Matcher
  | 0, _, c, k => k c
  | n + 1, last, c, k =>
    firstOf (k c) fun _ =>
      if last = some c.after.length then none
      else m c fun d => lazy m n (some c.after.length) d k

/-- Exactly `n` times, each in the first way that matches. -/
def firmTimes (m : Matcher) : Nat → Cursor → Option Cursor
  | 0, c => some c
  | n + 1, c => (m c some).bind (firmTimes m n)

/-- Up to `n` times, as often as possible, each in the first way that matches. -/
def firm (m : Matcher) : Nat → Option Nat → Cursor → Cursor
  | 0, _, c => c
  | n + 1, last, c =>
    if last = some c.after.length then c
    else match m c some with
      | some d => firm m n (some c.after.length) d
      | none => c

/-- How often a repetition may go on at a place after its least number; without a bound, each but the last takes
at least one character. -/
def bound (least : Nat) (most : Option Nat) (c : Cursor) : Nat :=
  match most with
  | some n => n - least
  | none => c.after.length + 1

def repeated (g : Greed) (least : Nat) (most : Option Nat) (m : Matcher) : Matcher := fun c k =>
  match g with
  | .greedy => times m least c fun d => greedy m (bound least most d) none d k
  | .lazy => times m least c fun d => lazy m (bound least most d) none d k
  | .possessive => (firmTimes m least c).bind fun d => k (firm m (bound least most d) none d)

/-- Only the groups that a matcher records are kept; the place stays. -/
def look (holds : Bool) (found : Option Cursor) (c : Cursor) (k : Cursor → Option Cursor) : Option Cursor :=
  match found, holds with
  | some d, true => k { c with groups := d.groups }
  | none, false => k c
  | _, _ => none

end Matcher

/-- Whether two letters agree, where case may not count. -/
def agree (ignoreCase ascii : Bool) (x y : Char) : Bool :=
  if ignoreCase then fold ascii x.toNat == fold ascii y.toNat else x == y

/-- The matcher of a pattern. -/
def run : Pattern → Matcher
  | .empty => fun c k => k c
  | .letter l => fun c k => (c.take? l.accepts).bind k
  | .anchor a => fun c k => if a.holds c then k c else none
  | .sequence p q => fun c k => p.run c fun d => q.run d k
  | .choice p q => fun c k => firstOf (p.run c k) fun _ => q.run c k
  | .repetition g least most p => Matcher.repeated g least most p.run
  | .group n p => fun c k => p.run c fun d => k (d.record n (c.passed d))
  | .again n ignoreCase ascii => fun c k =>
    match c.groups.lookup n with
    | some text => (c.takeAll? (agree ignoreCase ascii) text).bind k
    | none => none
  | .atomic p => fun c k => (p.run c some).bind k
  | .ahead holds p => fun c k => Matcher.look holds (p.run c some) c k
  | .behind holds width p => fun c k =>
    Matcher.look holds ((c.back? width).bind fun d => p.run d some) c k
  | .ifGroup n p q => fun c k => if (c.groups.lookup n).isSome then p.run c k else q.run c k

/-- Whether the pattern matches somewhere from a place on. -/
def occursFrom (p : Pattern) : List Char → List Char → Bool
  | before, [] => (p.run ⟨before, [], []⟩ some).isSome
  | before, c :: cs => (p.run ⟨before, c :: cs, []⟩ some).isSome || occursFrom p (c :: before) cs

/-- Whether the pattern matches some part of the text. -/
def occursIn (p : Pattern) (text : String) : Bool := p.occursFrom [] text.toList

end ObjcAtlas.Pattern
