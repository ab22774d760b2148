import ObjcAtlas.Document.Basic
import ObjcAtlas.Text.Basic

/-! Writing documents as JSON text in ASCII: `", "` between items, `": "` after keys. A numeral that is too long for
decimals ends the writing where it stands. -/
namespace ObjcAtlas.Document

def unitEscape (n : Nat) : List Char := '\\' :: 'u' :: Numeral.hexPadded 4 n

/-- One character of a text; beyond the basic plane it is written as two halves. -/
def escaped (c : Char) : List Char :=
  if c = '"' ∨ c = '\\' then ['\\', c]
  else if c = '\n' then ['\\', 'n']
  else if c = '\r' then ['\\', 'r']
  else if c = '\t' then ['\\', 't']
  else if c = '\x0c' then ['\\', 'f']
  else if c = '\x08' then ['\\', 'b']
  else if 32 ≤ c.toNat ∧ c.toNat ≤ 126 then [c]
  else if c.toNat < 0x10000 then unitEscape c.toNat
  else
    let n := c.toNat - 0x10000
    unitEscape (0xd800 + n / 0x400) ++ unitEscape (0xdc00 + n % 0x400)

def writeText (s : String) : String := String.ofList ('"' :: (s.toList.flatMap escaped ++ ['"']))

def writeReal : Binary64 → String
  | .nan => "NaN"
  | .infinite negative => if negative then "-Infinity" else "Infinity"
  | x => x.text

mutual
def write : Document → String
  | .null => "null"
  | .bool b => if b then "true" else "false"
  | .int n => Numeral.decimal n
  | .real x => writeReal x
  | .text s => writeText s
  | .list xs => "[" ++ Text.joinWith ", " (writeItems xs) ++ "]"
  | .object fields => "\x7b" ++ Text.joinWith ", " (writeFields fields) ++ "\x7d"
def writeItems : List Document → List String
  | [] => []
  | d :: ds => write d :: writeItems ds
def writeFields : List (String × Document) → List String
  | [] => []
  | (key, d) :: rest => (writeText key ++ ": " ++ write d) :: writeFields rest
end

/-- The part of a mark before an item that is put out ahead of it: one before a numeral comes together with it. -/
def markAhead (mark : String) : Document → String
  | .int _ => ""
  | _ => mark

mutual
/-- What has been put out of a document when its first numeral turns up that is too long, if there is one. -/
def writeUntil? : Document → Option String
  | .int n => if (Numeral.decimal? n).isSome then none else some ""
  | .list xs => writeItemsUntil? "[" xs
  | .object fields => writeFieldsUntil? "\x7b" fields
  | _ => none
/-- The items after `mark`. -/
def writeItemsUntil? (mark : String) : List Document → Option String
  | [] => none
  | d :: ds =>
    match writeUntil? d with
    | some before => some (markAhead mark d ++ before)
    | none => (writeItemsUntil? ", " ds).map (mark ++ write d ++ ·)
/-- The fields after `mark`. -/
def writeFieldsUntil? (mark : String) : List (String × Document) → Option String
  | [] => none
  | (key, d) :: rest =>
    match writeUntil? d with
    | some before => some (mark ++ writeText key ++ ": " ++ before)
    | none => (writeFieldsUntil? ", " rest).map (mark ++ writeText key ++ ": " ++ write d ++ ·)
end

end ObjcAtlas.Document
