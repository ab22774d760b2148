import ObjcAtlas.Text.Alphanumeric

/-! Arguments of a command: options by name, with abbreviations and clusters of short ones, and places that are
filled in order. -/
namespace ObjcAtlas.Arguments
variable {κ : Type} [DecidableEq κ]

structure Switch (κ : Type) where
  names : List String
  key : κ
  takesValue : Bool := false

/-- What a place takes: one argument, at most one, or one and everything after it. -/
inductive Arity where
  | one
  | atMostOne
  | all
  deriving DecidableEq

structure Place (κ : Type) where
  key : κ
  arity : Arity

structure Rules (κ : Type) where
  /-- The key of the option that only asks for help. -/
  help : κ
  switches : List (Switch κ)
  places : List (Place κ)
  /-- Options of which at most one may be given. -/
  exclusive : List κ := []

inductive Refusal where
  | help
  | invalid
  deriving DecidableEq

/-- Text in the same word as the name of an option; `marked` if an equals sign parts them. -/
structure Attached where
  text : List Char
  marked : Bool

inductive Word (κ : Type) where
  | argument
  /-- The first double dash; all after it are arguments. -/
  | separator
  | switch (s : Switch κ) (name : List Char) (attached : Option Attached)
  | unknown

def Word.isSwitch : Word κ → Bool
  | .switch _ _ _ | .unknown => true
  | _ => false

/-- What was given: keys with their values, in order, and whether something was left over. -/
structure Given (κ : Type) where
  taken : List (κ × List String) := []
  leftover : Bool := false

/-- The last value of a key. -/
def Given.value? (g : Given κ) (key : κ) : Option String := (g.taken.reverse.lookup key).bind (·.getLast?)

def Given.has (g : Given κ) (key : κ) : Bool := (g.taken.lookup key).isSome

namespace Rules

/-- The option of exactly this name. -/
def named? (r : Rules κ) (name : List Char) : Option (Switch κ) :=
  r.switches.find? fun s => s.names.contains (String.ofList name)

/-- All options with each of their names. -/
def allNames (r : Rules κ) : List (List Char × Switch κ) :=
  r.switches.flatMap fun s => s.names.map fun n => (n.toList, s)

/-- What follows the first equals sign, if there is one. -/
def afterEquals? (cs : List Char) : Option (List Char) :=
  match cs.dropWhile (· != '=') with
  | [] => none
  | _ :: rest => some rest

/-- Readings of a word with two dashes as an abbreviated name. -/
def abbreviated (r : Rules κ) (cs : List Char) : List (Word κ) :=
  let stem := cs.takeWhile (· != '=')
  (r.allNames.filter fun (n, _) => stem.isPrefixOf n).map fun (n, s) =>
    .switch s n ((afterEquals? cs).map fun v => ⟨v, true⟩)

/-- Readings of a word with one dash as a short name with text attached, or as an abbreviated name. -/
def clustered (r : Rules κ) (cs : List Char) : List (Word κ) :=
  r.allNames.filterMap fun (n, s) =>
    if n = cs.take 2 then some (.switch s n (some ⟨cs.drop 2, false⟩))
    else if cs.isPrefixOf n then some (.switch s n none)
    else none

/-- A minus sign before digits, perhaps with a point among them. -/
def isNegativeNumber (cs : List Char) : Bool :=
  let cs := if cs.getLast? = some '\n' then cs.dropLast else cs
  match cs with
  | '-' :: ds =>
    let whole := ds.takeWhile Text.isDecimal
    match ds.drop whole.length with
    | [] => !whole.isEmpty
    | '.' :: part => !part.isEmpty && part.all Text.isDecimal
    | _ => false
  | _ => false

/-- The name before an equals sign and the value after it, if an option has that name. -/
def assigned? (r : Rules κ) (cs : List Char) : Option (Word κ) := do
  let value ← afterEquals? cs
  let name := cs.takeWhile (· != '=')
  let s ← r.named? name
  return .switch s name (some ⟨value, true⟩)

/-- A word that starts with a dash and is no name. A negative number and a word with a blank are arguments. -/
def readDashed (r : Rules κ) (cs : List Char) : Except Refusal (Word κ) :=
  match if cs.take 2 = ['-', '-'] then r.abbreviated cs else r.clustered cs with
  | [w] => .ok w
  | _ :: _ => .error .invalid
  | [] => .ok (if isNegativeNumber cs || cs.contains ' ' then .argument else .unknown)

/-- What a word before any double dash is. -/
def readWord (r : Rules κ) (word : String) : Except Refusal (Word κ) :=
  let cs := word.toList
  if cs.head? ≠ some '-' then .ok .argument
  else match r.named? cs with
    | some s => .ok (.switch s cs none)
    | none =>
      if cs = ['-'] then .ok .argument
      else match r.assigned? cs with
        | some w => .ok w
        | none => r.readDashed cs

/-- The words with what they are. -/
def classify (r : Rules κ) : List String → Except Refusal (List (String × Word κ))
  | [] => .ok []
  | word :: rest =>
    if word = "--" then .ok ((word, .separator) :: rest.map fun w => (w, .argument))
    else do return (word, ← r.readWord word) :: (← r.classify rest)

/-- How reading a cluster of short options ends. -/
inductive Ending (κ : Type) where
  /-- An option takes the rest of the cluster as its value. -/
  | value (key : κ) (text : List Char)
  /-- The last option stands without text after it. -/
  | bare (s : Switch κ)
  /-- A character names no option. -/
  | leftover

def isShort (name : List Char) : Bool := (name.drop 1).head? != some '-'

/-- The flags of a cluster that starts with the option `s`, and how it ends. -/
def cluster (r : Rules κ) (s : Switch κ) (short marked : Bool) : List Char →
    Except Refusal (List κ × Ending κ)
  | [] => if s.takesValue then .ok ([], .value s.key []) else .error .invalid
  | c :: cs =>
    if s.takesValue then .ok ([], .value s.key (c :: cs))
    else if !short || marked || c = '-' then .error .invalid
    else match r.named? ['-', c] with
      | none => .ok ([s.key], .leftover)
      | some t => do
        let (keys, ending) ← match cs with
          | [] => .ok ([], .bare t)
          | '=' :: text => r.cluster t true true text
          | d :: text => r.cluster t true false (d :: text)
        return (s.key :: keys, ending)

/-- Records that a key is given. -/
def act (r : Rules κ) (g : Given κ) (key : κ) (values : List String) : Except Refusal (Given κ) :=
  if key = r.help then .error .help
  else if r.exclusive.contains key && g.taken.any (fun t => t.1 ≠ key && r.exclusive.contains t.1) then
    .error .invalid
  else .ok { g with taken := g.taken ++ [(key, values)] }

/-- Records flags. -/
def actAll (r : Rules κ) : Given κ → List κ → Except Refusal (Given κ)
  | g, [] => .ok g
  | g, k :: ks => do r.actAll (← r.act g k []) ks

/-- Takes an option that has no text attached, with its value from the next word. -/
def takeBare (r : Rules κ) (g : Given κ) (keys : List κ) (s : Switch κ) (rest : List (String × Word κ)) :
    Except Refusal (Given κ × List (String × Word κ)) :=
  if s.takesValue then
    match rest with
    | (v, .argument) :: rest => do return (← r.act (← r.actAll g keys) s.key [v], rest)
    | _ => .error .invalid
  else do return (← r.act (← r.actAll g keys) s.key [], rest)

/-- Takes the option at the head of the words. -/
def takeSwitch (r : Rules κ) (g : Given κ) (s : Switch κ) (name : List Char) (attached : Option Attached)
    (rest : List (String × Word κ)) : Except Refusal (Given κ × List (String × Word κ)) :=
  match attached with
  | none => r.takeBare g [] s rest
  | some a => do
    let (keys, ending) ← r.cluster s (isShort name) a.marked a.text
    match ending with
    | .value key text => return (← r.act (← r.actAll g keys) key [String.ofList text], rest)
    | .bare t => r.takeBare g keys t rest
    | .leftover => return ({ (← r.actAll g keys) with leftover := true }, rest)

def isSeparator : String × Word κ → Bool
  | (_, .separator) => true
  | _ => false

def countSeparators (ws : List (String × Word κ)) : Nat := (ws.takeWhile isSeparator).length

def startsWithArgument : List (String × Word κ) → Bool
  | (_, .argument) :: _ => true
  | _ => false

/-- How many words a place claims, none if it cannot be filled from here. -/
def claim? (ws : List (String × Word κ)) (a : Arity) : Option Nat :=
  let before := countSeparators ws
  let rest := ws.drop before
  if startsWithArgument rest then
    match a with
    | .all => some ws.length
    | _ => some (before + 1 + countSeparators (rest.drop 1))
  else match a with
    | .atMostOne => some before
    | _ => none

/-- The values of claimed words. A double dash is no value, except among the words of a place that takes all. -/
def valuesOf (a : Arity) (words : List String) : List String :=
  match a with
  | .all => words
  | _ => words.erase "--"

/-- Fills places from the words as far as that is possible: what is given then, the places left, and the words
left. -/
def fill (r : Rules κ) (g : Given κ) : List (Place κ) → List (String × Word κ) →
    Except Refusal (Given κ × List (Place κ) × List (String × Word κ))
  | [], ws => .ok (g, [], ws)
  | p :: ps, ws =>
    match claim? ws p.arity with
    | none => .ok (g, p :: ps, ws)
    | some n => do
      let g ← r.act g p.key (valuesOf p.arity ((ws.take n).map (·.1)))
      r.fill g ps (ws.drop n)

/-- Takes options and fills places in turn. Places are filled before an option as soon as any word stands there,
so that one which may stay empty can be passed for good. -/
def readAll (r : Rules κ) : Nat → Given κ → List (Place κ) → List (String × Word κ) →
    Except Refusal (Given κ × List (Place κ))
  | 0, _, _, _ => .error .invalid
  | fuel + 1, g, ps, ws =>
    match ws with
    | (_, .switch s name attached) :: rest => do
      let (g, rest) ← r.takeSwitch g s name attached rest
      r.readAll fuel g ps rest
    | (_, .unknown) :: rest => r.readAll fuel { g with leftover := true } ps rest
    | ws => do
      let (g, ps, rest) ← r.fill g ps ws
      if rest.length < ws.length then r.readAll fuel g ps rest
      else match ws.dropWhile fun w => !w.2.isSwitch with
        | [] => return ({ g with leftover := g.leftover || !ws.isEmpty }, ps)
        | rest => r.readAll fuel { g with leftover := true } ps rest

/-- Reads the words of a command. A place for one argument or more must be filled. -/
def read (r : Rules κ) (args : List String) : Except Refusal (Given κ) := do
  let ws ← r.classify args
  let (g, ps) ← r.readAll (2 * ws.length + 2) {} r.places ws
  if ps.all fun p => p.arity = .atMostOne then return g else .error .invalid

end Rules
end ObjcAtlas.Arguments
