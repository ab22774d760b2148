import ObjcAtlas.Numeral

/-! Where a sequence of bytes stops being UTF-8 text, and why. -/
namespace ObjcAtlas.Text

inductive Utf8Reason where
  | startByte
  | continuationByte
  | truncated
  deriving DecidableEq

def Utf8Reason.message : Utf8Reason → String
  | .startByte => "invalid start byte"
  | .continuationByte => "invalid continuation byte"
  | .truncated => "unexpected end of data"

/-- Bytes that cannot be decoded: the first of them, where it stands, and how many there are. -/
structure Utf8Fault where
  byte : Nat
  position : Nat
  length : Nat
  reason : Utf8Reason
  deriving DecidableEq

namespace Utf8

def isContinuation (b : Nat) : Bool := 0x80 ≤ b && b ≤ 0xbf

/-- How many bytes a character has that starts with the byte `b`, none if no character does. -/
def size? (b : Nat) : Option Nat :=
  if b < 0x80 then some 1
  else if b < 0xc2 then none
  else if b < 0xe0 then some 2
  else if b < 0xf0 then some 3
  else if b < 0xf5 then some 4
  else none

/-- Whether a second byte may follow a first one: no overlong form, no half of a pair, nothing beyond the last
character. -/
def isSecond (b second : Nat) : Bool :=
  isContinuation second &&
    !(b == 0xe0 && second < 0xa0) && !(b == 0xed && second ≥ 0xa0) &&
    !(b == 0xf0 && second < 0x90) && !(b == 0xf4 && second ≥ 0x90)

/-- How many of the bytes after the first byte `b` may follow it, looking at `n` of them. -/
def follow (b n : Nat) : List Nat → Nat
  | [] => 0
  | c :: cs => if isSecond b c then 1 + ((cs.take (n - 1)).takeWhile isContinuation).length else 0

/-- The first bytes that cannot be decoded, when `position` bytes went before; `fuel` bounds the characters. -/
def faultFrom : Nat → Nat → List Nat → Option Utf8Fault
  | 0, _, _ => none
  | _, _, [] => none
  | fuel + 1, position, b :: bs =>
    match size? b with
    | none => some ⟨b, position, 1, .startByte⟩
    | some 1 => faultFrom fuel (position + 1) bs
    | some n =>
      let got := follow b (n - 1) (bs.take (n - 1))
      if got = n - 1 then faultFrom fuel (position + n) (bs.drop (n - 1))
      else if got = bs.length then some ⟨b, position, bs.length + 1, .truncated⟩
      else some ⟨b, position, got + 1, .continuationByte⟩

def fault? (bytes : ByteArray) : Option Utf8Fault :=
  let bs := bytes.data.toList.map UInt8.toNat
  faultFrom bs.length 0 bs

end Utf8

def Utf8Fault.message (f : Utf8Fault) : String :=
  (if f.length = 1 then
    "'utf-8' codec can't decode byte 0x" ++ String.ofList (Numeral.hexPadded 2 f.byte) ++
      " in position " ++ toString f.position
  else
    "'utf-8' codec can't decode bytes in position " ++ toString f.position ++ "-" ++
      toString (f.position + f.length - 1)) ++ ": " ++ f.reason.message

/-- How many bytes of `size` come before the one that shows the fault. -/
def Utf8Fault.noticedAfter (size : Nat) (f : Utf8Fault) : Nat :=
  match f.reason with
  | .startByte => f.position
  | .continuationByte => f.position + f.length
  | .truncated => size

end ObjcAtlas.Text
