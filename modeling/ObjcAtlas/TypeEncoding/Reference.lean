import ObjcAtlas.Text.Basic
import ObjcAtlas.Text.Identifier

/-! Which classes and protocols a type string names. Instance variables are written in the runtime form
(`@"Name"`), properties and arguments as declarations (`Name *`). -/
namespace ObjcAtlas

/-- A class or protocol named by a type. -/
inductive TypeReference where
  | toClass (name : String)
  | toProtocol (name : String)
  deriving DecidableEq

namespace TypeEncoding

inductive Style where
  | runtime
  | declaration
  deriving DecidableEq

/-- Empty text counts as no name. -/
def nonempty? (cs : List Char) : Option (List Char) := if cs.isEmpty then none else some cs

/-- The class of `@"Name"`; the closing quote may be missing. -/
def objectPointer? : List Char → Option (List Char)
  | '@' :: '"' :: name =>
    nonempty? (if name.getLast? = some '"' then name.dropLast else name)
  | _ => none

/-- The class of `Name *`: an ASCII capital starts the type and a star ends it. -/
def declaredPointer? (cs : List Char) : Option (List Char) :=
  let text := Text.trim (· == ' ') cs
  match text with
  | c :: _ =>
    if c.isUpper && text.getLast? == some '*' then
      nonempty? (Text.trim (fun c => c == ' ' || c == '*') text)
    else none
  | [] => none

/-- One piece of a protocol list, if it names a protocol. -/
def protocolName? (piece : List Char) : Option (List Char) :=
  let name := Text.trim (fun c => c == ' ' || c == '<' || c == '>') piece
  if name.contains '*' || !Text.isIdentifier name then none else some name

/-- The protocol names before the first closing bracket. -/
def protocolNames (cs : List Char) : List (List Char) :=
  (Text.fields ',' (cs.takeWhile (· != '>'))).filterMap protocolName?

/-- The text after the first opening bracket. -/
def afterBracket? (cs : List Char) : Option (List Char) :=
  match cs.dropWhile (· != '<') with
  | [] => none
  | _ :: rest => some rest

/-- The names in the bracketed list, if there is one. -/
def protocolList (cs : List Char) : List (List Char) :=
  match afterBracket? cs with
  | some rest => protocolNames rest
  | none => []

/-- The text before the brackets of a qualified root object. -/
def rootObject : List Char := "NSObject<".toList

/-- The first protocol of `NSObject<P, Q>`. -/
def qualifiedProtocol? (cs : List Char) : Option (List Char) :=
  if rootObject.isPrefixOf cs then (protocolNames (cs.drop rootObject.length)).head? else none

/-- The type without the quotes and stars around it. -/
def unwrapped (cs : List Char) : List Char :=
  Text.trim (fun c => c == ' ' || c == '*') (Text.trim (fun c => c == '@' || c == '"') cs)

/-- The protocols of a bracketed type: the one that qualifies the root object once more in front. -/
def protocolReferences (cs : List Char) : List (List Char) :=
  let text := unwrapped cs
  (qualifiedProtocol? text).toList ++ protocolList text

/-- The class of a type without brackets. -/
def classReference? (style : Style) (cs : List Char) : Option (List Char) :=
  match objectPointer? cs with
  | some name => some name
  | none =>
    match style with
    | .declaration => declaredPointer? cs
    | .runtime => none

/-- The classes and protocols that a type names, in order of appearance. -/
def references (style : Style) (type : String) : List TypeReference :=
  let cs := type.toList
  if cs.contains '<' || cs.contains '>' then
    (protocolReferences cs).map fun n => .toProtocol (String.ofList n)
  else ((classReference? style cs).toList).map fun n => .toClass (String.ofList n)

end TypeEncoding
end ObjcAtlas
