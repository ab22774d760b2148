import ObjcAtlas.Document.Writer
import ObjcAtlas.SharedCache
import ObjcAtlas.Text.Basic
import ObjcAtlas.Text.Utf8

/-! From addresses to functions: reading addresses, finding the function of one or many, and telling the result. -/
namespace ObjcAtlas

namespace Address

/-- An address in hexadecimal with its mark or in decimal. What stands after the mark is itself read as a
hexadecimal numeral. -/
def read? (s : String) : Option Int :=
  match (Text.trim Text.isBlank s.toList) with
  | '0' :: m :: rest =>
    if m = 'x' ∨ m = 'X' then Numeral.read? .hexadecimal (String.ofList rest)
    else Numeral.read? .decimal (String.ofList ('0' :: m :: rest))
  | cs => Numeral.read? .decimal (String.ofList cs)

def parse (s : String) : Except Failure Int :=
  match read? s with
  | some a => .ok a
  | none => .error (.configuration (.invalidAddress s))

/-- The addresses of a text, one a line; blank lines are skipped. -/
def readLines (text : String) : Except Failure (List Int) :=
  (((Text.linesKeepingEnds text.toList).filter fun l => !l.all Text.isBlank).map String.ofList).mapM parse

/-- How many bytes of a file are decoded at once. -/
def blockSize : Nat := 8192

/-- The lines of a file of which only the beginning is known. A carriage return at its end may yet be the first
half of a line end. -/
def completeLines (cs : List Char) : List Char :=
  let known := if cs.getLast? = some '\r' then cs.dropLast else cs
  ((Text.linesKeepingEnds (Text.unifyLineEnds known)).filter fun l => l.getLast? = some '\n').flatten

/-- The lines that are read before bytes are met that are no text. -/
def linesBefore (fault : Text.Utf8Fault) (content : ByteArray) : List Char :=
  let noticed := fault.noticedAfter content.size
  let read := if noticed = content.size then noticed else noticed / blockSize * blockSize
  match String.fromUTF8? (content.extract 0 (min read fault.position)) with
  | some text => completeLines text.toList
  | none => []

/-- The addresses of a file. If its bytes stop being text, an invalid address read before that is told first. -/
def readBytes (content : ByteArray) : Except Failure (List Int) :=
  match Text.Utf8.fault? content, String.fromUTF8? content with
  | none, some text => readLines (String.ofList (Text.unifyLineEnds text.toList))
  | some fault, _ => do
    let _ ← readLines (String.ofList (linesBefore fault content))
    .error .undecodable
  | none, none => .error .undecodable

end Address

/-- A function found for an address. -/
structure FunctionMatch where
  address : Int
  start : Int
  stop : Int
  name : String := ""
  image : String := ""
  deriving DecidableEq

namespace FunctionMatch

def size (m : FunctionMatch) : Int := m.stop - m.start

def offset (m : FunctionMatch) : Int := m.address - m.start

/-- The fields of a match; zero and empty ones are left out. -/
def toDocument (m : FunctionMatch) : Document :=
  .object <| ([("addr", .int m.address), ("start", .int m.start), ("end", .int m.stop),
    ("size", .int m.size), ("name", .text m.name), ("image", .text m.image)] :
      List (String × Document)).filter fun f => !f.2.isBlankValue

/-- Whether all numbers of a match can be written in decimal. -/
def isWritable (m : FunctionMatch) : Bool :=
  [m.address, m.start, m.stop, m.size].all fun n => (Numeral.decimal? n).isSome

/-- The matches as one line of JSON. -/
def writeAll (ms : List FunctionMatch) : Except Failure String :=
  if ms.all isWritable then .ok ((Document.list (ms.map toDocument)).write ++ "\n")
  else .error .numeralTooLong

/-- What is put out of matches whose numbers cannot all be written. -/
def writtenUntilFault (ms : List FunctionMatch) : String := ((Document.list (ms.map toDocument)).writeUntil?).getD ""

/-- A line on the function at the address `shown`. -/
def describe (shown : Int) (m : FunctionMatch) : Except Failure String :=
  let bounds := "(start: " ++ Numeral.hex m.start ++ ", end: " ++ Numeral.hex m.stop ++ ")"
  if m.name.isEmpty then
    .ok (Numeral.hex shown ++ ": func_" ++ Numeral.bareHex shown ++ " " ++ bounds)
  else if m.offset = 0 then .ok (Numeral.hex shown ++ ": " ++ m.name ++ " " ++ bounds)
  else match Numeral.decimal? m.offset with
    | some offset => .ok (Numeral.hex shown ++ ": " ++ m.name ++ " + " ++ offset ++ " " ++ bounds)
    | none => .error .numeralTooLong

end FunctionMatch

namespace SharedCache

/-- Removes a slide from an address; only a positive slide moves it. -/
def unslide (slide a : Int) : Int := if slide > 0 then a - slide else a

/-- The name of a function: its symbol, or the name that the image gives it. -/
def functionName (c : SharedCache) (f : FunctionRange) : String :=
  (nonemptyText? (c.symbolAt? f.start)).getD f.name

/-- The function that contains an address, none if its image knows no function there. -/
def lookup (c : SharedCache) (slide a : Int) : Except Failure (Option FunctionMatch) := do
  let u := unslide slide a
  let i ← c.imageAt u
  return (i.functionAt? u).map fun f =>
    { address := u, start := f.start, stop := f.stop, name := c.functionName f
      image := Path.baseName i.name }

/-- Addresses grouped under the name of the image that contains them, in the order of first mention. -/
def groupByImage (c : SharedCache) (slide : Int) : List Int → List (String × List Int) →
    Except Failure (List (String × List Int))
  | [], groups => .ok groups
  | a :: rest, groups => do
    let i ← c.imageAt (unslide slide a)
    c.groupByImage slide rest (Keyed.put i.name ((groups.lookup i.name).getD [] ++ [a]) groups)

/-- The functions of many addresses, image by image; addresses outside functions are skipped. -/
def lookupAll (c : SharedCache) (slide : Int) (addresses : List Int) :
    Except Failure (List FunctionMatch) := do
  let groups ← c.groupByImage slide addresses []
  return (← (groups.flatMap (·.2)).mapM (c.lookup slide)).filterMap id

end SharedCache
end ObjcAtlas
