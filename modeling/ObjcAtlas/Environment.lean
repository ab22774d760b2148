import ObjcAtlas.Keyed
import ObjcAtlas.Numeral

/-! The environment of a run: the settings that its variables can replace, and files that assign variables. Such a file
has one `KEY=VALUE` a line, with comments, quotes, `export` and references to other variables. A line that is no
assignment is passed over. -/
namespace ObjcAtlas

/-- The variables that are set, each once. -/
abbrev Environment := List (String × String)

structure Settings where
  toolName : String := "objc-header-reconstructor"
  privateMarker : String := "PrivateFrameworks"
  rootClass : String := "NSObject"
  rootFramework : String := "Foundation"
  directoryMode : Int := 0o750
  umbrellaSuffix : String := "-Umbrella"
  deriving DecidableEq

/-- A mode that is no numeral leaves the default. -/
def Settings.ofEnvironment (env : Environment) : Settings :=
  let d : Settings := {}
  let get (key default : String) : String := (env.lookup ("OBJC_" ++ key)).getD default
  { toolName := get "TOOL_NAME" d.toolName
    privateMarker := get "PRIVATE_FRAMEWORK_MARKER" d.privateMarker
    rootClass := get "ROOT_CLASS" d.rootClass
    rootFramework := get "ROOT_FRAMEWORK" d.rootFramework
    directoryMode :=
      ((env.lookup "OBJC_DIRECTORY_MODE").bind (Numeral.read? .marked)).getD d.directoryMode
    umbrellaSuffix := get "UMBRELLA_SUFFIX" d.umbrellaSuffix }

/-- The system images that every header may take names from. -/
def foundationImages : List String := ["Foundation", "CoreFoundation"]

/-- The version shown in generated headers. -/
def toolVersion : String := "0.1.0"

namespace EnvironmentFile
open Text (isBlank)

/-- A key with its value, none if only the key is given. -/
abbrev Assignment := String × Option String

def isLineEnd (c : Char) : Bool := c == '\n' || c == '\r'

def isInlineBlank (c : Char) : Bool := isBlank c && !isLineEnd c

def skipInline (cs : List Char) : List Char := cs.dropWhile isInlineBlank

def dropLineEnd : List Char → List Char
  | '\r' :: '\n' :: cs => cs
  | c :: cs => if isLineEnd c then cs else c :: cs
  | [] => []

/-- What follows the line that the text starts in. -/
def nextLine (cs : List Char) : List Char := dropLineEnd (cs.dropWhile fun c => !isLineEnd c)

/-- The word `export` before a key, with the blanks that part them. -/
def skipExport (cs : List Char) : List Char :=
  let word := "export".toList
  if word.isPrefixOf cs && (cs.drop word.length).head?.any isInlineBlank then
    skipInline (cs.drop word.length)
  else cs

/-- Text up to a closing quote. A backslash hides the quote after it; but if no quote is left to close the text,
the last hidden one does. -/
def quotedText (quote : Char) : List Char → Option (List Char × List Char)
  | [] => none
  | '\\' :: c :: cs =>
    if c = quote then
      match quotedText quote cs with
      | some (taken, rest) => some ('\\' :: quote :: taken, rest)
      | none => some (['\\'], cs)
    else (quotedText quote (c :: cs)).map fun (taken, rest) => ('\\' :: taken, rest)
  | c :: cs =>
    if c = quote then some ([], cs)
    else (quotedText quote cs).map fun (taken, rest) => (c :: taken, rest)

/-- What an escape in double quotes stands for. -/
def doubleEscape? : Char → Option Char
  | '\\' => some '\\'
  | '\'' => some '\''
  | '"' => some '"'
  | 'a' => some '\x07'
  | 'b' => some '\x08'
  | 'f' => some '\x0c'
  | 'n' => some '\n'
  | 'r' => some '\r'
  | 't' => some '\t'
  | 'v' => some '\x0b'
  | _ => none

/-- In single quotes only the quote and the backslash can be escaped. -/
def singleEscape? : Char → Option Char
  | '\\' => some '\\'
  | '\'' => some '\''
  | _ => none

def unescape (meaning? : Char → Option Char) : List Char → List Char
  | [] => []
  | '\\' :: c :: cs =>
    match meaning? c with
    | some d => d :: unescape meaning? cs
    | none => '\\' :: unescape meaning? (c :: cs)
  | c :: cs => c :: unescape meaning? cs

/-- Cuts off a comment, which starts with a number sign after a blank. -/
def dropComment : List Char → List Char
  | [] => []
  | c :: cs =>
    if isBlank c && (cs.dropWhile isBlank).head? == some '#' then []
    else c :: dropComment cs

/-- The value after an equals sign and what follows it; none if a quote is not closed. -/
def value? : List Char → Option (List Char × List Char)
  | '\'' :: cs => (quotedText '\'' cs).map fun (v, rest) => (unescape singleEscape? v, rest)
  | '"' :: cs => (quotedText '"' cs).map fun (v, rest) => (unescape doubleEscape? v, rest)
  | cs =>
    let line := cs.takeWhile fun c => !isLineEnd c
    some (Text.trimEnd isBlank (dropComment line), cs.drop line.length)

/-- A key in single quotes, or up to a blank, an equals sign or a comment. -/
def key? : List Char → Option (List Char × List Char)
  | '\'' :: cs =>
    let name := cs.takeWhile (· != '\'')
    match cs.drop name.length with
    | _ :: rest => if name.isEmpty then none else some (name, rest)
    | [] => none
  | cs =>
    let name := cs.takeWhile fun c => c != '=' && c != '#' && !isBlank c
    if name.isEmpty then none else some (name, cs.drop name.length)

/-- The rest of a line after an assignment: blanks and a comment at most. -/
def endLine? (cs : List Char) : Option (List Char) :=
  let cs := skipInline cs
  let cs := if cs.head? = some '#' then cs.dropWhile fun c => !isLineEnd c else cs
  match cs with
  | [] => some []
  | c :: _ => if isLineEnd c then some (dropLineEnd cs) else none

/-- Reads on from a key; the first part is none where the line is no assignment. -/
def afterKey (key : List Char) (cs : List Char) : Option Assignment × List Char :=
  match skipInline cs with
  | '=' :: cs =>
    let cs := skipInline cs
    match value? cs with
    | none => (none, nextLine cs)
    | some (v, rest) =>
      match endLine? rest with
      | some rest => (some (String.ofList key, some (String.ofList v)), rest)
      | none => (none, nextLine rest)
  | cs =>
    match endLine? cs with
    | some rest => (some (String.ofList key, none), rest)
    | none => (none, nextLine cs)

/-- Reads one assignment, if the text starts with one, and what follows its line. -/
def readOne (cs : List Char) : Option Assignment × List Char :=
  let cs := skipExport (cs.dropWhile isBlank)
  if cs.head? = some '#' then (none, nextLine cs)
  else match key? cs with
    | some (key, rest) => afterKey key rest
    | none => (none, nextLine cs)

/-- At most `fuel` lines. -/
def readLines : Nat → List Char → List Assignment
  | 0, _ => []
  | _, [] => []
  | fuel + 1, cs =>
    let (a, rest) := readOne cs
    a.toList ++ readLines fuel rest

/-- The assignments of a text in order. -/
def read (text : String) : List Assignment :=
  let cs := Text.unifyLineEnds text.toList
  readLines cs.length cs

/-- A piece of a value: text, or a variable with what stands for it when it is not set. -/
inductive Piece where
  | text (cs : List Char)
  | variable (name fallback : List Char)
  deriving DecidableEq

/-- A reference such as `${NAME:-fallback}` after its opening brace, and what follows it. -/
def reference? (cs : List Char) : Option (Piece × List Char) :=
  let name := cs.takeWhile fun c => c != '\x7d' && c != ':'
  match cs.drop name.length with
  | '\x7d' :: rest => some (.variable name [], rest)
  | ':' :: '-' :: more =>
    let fallback := more.takeWhile (· != '\x7d')
    match more.drop fallback.length with
    | _ :: rest => some (.variable name fallback, rest)
    | [] => none
  | _ => none

/-- The pieces of a value; `fuel` bounds their number. -/
def pieces : Nat → List Char → List Piece
  | 0, _ => []
  | _, [] => []
  | fuel + 1, '$' :: '\x7b' :: cs =>
    match reference? cs with
    | some (p, rest) => p :: pieces fuel rest
    | none => .text ['$'] :: pieces fuel ('\x7b' :: cs)
  | fuel + 1, c :: cs => .text [c] :: pieces fuel cs

/-- The text of a piece: a set variable comes before one assigned in the file, and an assigned key without a value
is empty. -/
def Piece.resolve (env : Environment) (assigned : List Assignment) : Piece → List Char
  | .text cs => cs
  | .variable name fallback =>
    match env.lookup (String.ofList name) with
    | some v => v.toList
    | none =>
      match assigned.lookup (String.ofList name) with
      | some v => (v.getD "").toList
      | none => fallback

def resolveValue (env : Environment) (assigned : List Assignment) (value : String) : String :=
  let cs := value.toList
  String.ofList ((pieces cs.length cs).flatMap (Piece.resolve env assigned))

/-- The assignments with their references resolved, each key once; the last value of a key counts. -/
def resolve (env : Environment) (assignments : List Assignment) : List Assignment :=
  assignments.foldl (fun done (key, value) => Keyed.put key (value.map (resolveValue env done)) done) []

/-- The variables that a file adds: those that are not set already. -/
def additions (env : Environment) (text : String) : Environment :=
  (resolve env (read text)).filterMap fun (key, value) =>
    if (env.lookup key).isSome then none else value.map fun v => (key, v)

end EnvironmentFile
end ObjcAtlas
