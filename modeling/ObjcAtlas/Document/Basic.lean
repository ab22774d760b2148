import ObjcAtlas.Binary64
import ObjcAtlas.Keyed
import ObjcAtlas.Text.Quoted

/-! Documents: the dynamically typed values that metadata is exchanged in, and the ways in which a value can
be of the wrong kind for a use. -/
namespace ObjcAtlas

/-- A document value. An object keeps its fields in order and has each key once. -/
inductive Document where
  | null
  | bool (value : Bool)
  | int (value : Int)
  | real (value : Binary64)
  | text (value : String)
  | list (items : List Document)
  | object (fields : List (String × Document))
  deriving Inhabited

namespace Document

/-- What is wrong with a value. -/
inductive Fault where
  /-- A record lacks a key that it must have. -/
  | missingKey (key : String)
  /-- A value has a kind that the use does not allow. -/
  | wrongKind
  /-- Optional fields are asked of a value that is no record. -/
  | notRecord
  /-- A value of the right kind denotes no number. -/
  | badNumeral
  /-- An infinite number stands where an integer is needed. -/
  | infiniteNumeral
  deriving DecidableEq

/-- A required field of a record. -/
def field (key : String) : Document → Except Fault Document
  | .object fields =>
    match fields.lookup key with
    | some v => .ok v
    | none => .error (.missingKey key)
  | _ => .error .wrongKind

/-- A field of a record that may be absent. -/
def field? (key : String) : Document → Except Fault (Option Document)
  | .object fields => .ok (fields.lookup key)
  | _ => .error .notRecord

/-- The values that a document runs through: the items of a list, the characters of a text, the keys of
an object. -/
def items : Document → Except Fault (List Document)
  | .list xs => .ok xs
  | .text s => .ok (s.toList.map fun c => .text (String.ofList [c]))
  | .object fields => .ok (fields.map fun f => .text f.1)
  | _ => .error .wrongKind

/-- The items of an optional field, none if it is absent. -/
def fieldItems (key : String) (d : Document) : Except Fault (List Document) := do
  match ← d.field? key with
  | some v => v.items
  | none => .ok []

/-- Empty and zero values count as absent where a default stands in for them. -/
def isBlankValue : Document → Bool
  | .null => true
  | .bool b => !b
  | .int n => n == 0
  | .real x => x.isZero
  | .text s => s.isEmpty
  | .list xs => xs.isEmpty
  | .object fields => fields.isEmpty

/-- The integer that a value denotes: numerals with a base mark, numbers cut toward zero, truth values. -/
def integer : Document → Except Fault Int
  | .text s =>
    match Numeral.read? .marked s with
    | some n => .ok n
    | none => .error .badNumeral
  | .int n => .ok n
  | .bool b => .ok (if b then 1 else 0)
  | .real .nan => .error .badNumeral
  | .real (.infinite _) => .error .infiniteNumeral
  | .real (.finite negative m e) => .ok ((Binary64.finite negative m e).truncate?.getD 0)
  | _ => .error .wrongKind

/-- The integer of an optional field; null counts as absent. -/
def optionalInteger : Option Document → Except Fault (Option Int)
  | none | some .null => .ok none
  | some d => d.integer.map some

/-- A field that must be text. -/
def asText : Document → Except Fault String
  | .text s => .ok s
  | _ => .error .wrongKind

/-- Text; a blank value of another kind counts as absent. -/
def asOptionalText : Document → Except Fault (Option String)
  | .text s => .ok (some s)
  | d => if d.isBlankValue then .ok none else .error .wrongKind

/-- Text, where every blank value counts as absent. -/
def asNonblankText (d : Document) : Except Fault (Option String) :=
  if d.isBlankValue then .ok none else d.asText.map some

/-- A type encoding; an empty list or record is as good as an empty text. -/
def asEncoding : Document → Except Fault (Option String)
  | .list [] | .object [] => .ok (some "")
  | d => d.asOptionalText

mutual
/-- The text of a value inside another one: texts are quoted. -/
def shown : Document → String
  | .null => "None"
  | .bool b => if b then "True" else "False"
  | .int n => Numeral.decimal n
  | .real x => x.text
  | .text s => Text.quoted s
  | .list xs => "[" ++ Text.joinWith ", " (shownItems xs) ++ "]"
  | .object fields => "\x7b" ++ Text.joinWith ", " (shownFields fields) ++ "\x7d"
def shownItems : List Document → List String
  | [] => []
  | d :: ds => shown d :: shownItems ds
def shownFields : List (String × Document) → List String
  | [] => []
  | (key, d) :: rest => (Text.quoted key ++ ": " ++ shown d) :: shownFields rest
end

/-- The text of a value by itself. -/
def display : Document → String
  | .text s => s
  | d => shown d

/-- Text as it stands and any other value as it is shown; a blank one counts as absent. -/
def shownText? : Document → Option String
  | .text s => some s
  | d => if d.isBlankValue then none else some d.display

/-- The items of an optional field as texts. -/
def fieldTexts (key : String) (d : Document) : Except Fault (List String) :=
  return (← d.fieldItems key).map display

end Document
end ObjcAtlas
