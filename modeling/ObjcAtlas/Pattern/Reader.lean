import ObjcAtlas.Numeral
import ObjcAtlas.Pattern.Basic
import ObjcAtlas.Text.Identifier

/-! Reading patterns from text. A backslash and the character after it count as one token; every recursive step is
bounded by the number of tokens. -/
namespace ObjcAtlas.Pattern

inductive ReadFault where
  | malformed
  /-- A number of repetitions beyond every limit. -/
  | countTooLarge
  /-- Letters are asked to be both those of ASCII and those of all scripts. -/
  | modeConflict
  | numeralTooLong
  deriving DecidableEq

inductive Token where
  | plain (c : Char)
  | escaped (c : Char)
  /-- A backslash that ends the text. -/
  | dangling
  deriving DecidableEq

def tokens : List Char → List Token
  | [] => []
  | '\\' :: c :: cs => .escaped c :: tokens cs
  | c :: cs => (if c = '\\' then .dangling else .plain c) :: tokens cs

def Token.text : Token → List Char
  | .plain c => [c]
  | .escaped c => ['\\', c]
  | .dangling => ['\\']

/-- What is left to read, and the groups opened and closed so far. -/
structure ReadState where
  rest : List Token
  mode : Mode := {}
  groups : Nat := 0
  names : List (String × Nat) := []
  /-- Widths of the closed groups. -/
  widths : List (Nat × Width) := []
  /-- How many groups were opened before the outermost look behind that is being read. -/
  behind : Option Nat := none
  /-- Numbers of groups that conditions ask for. -/
  asked : List Nat := []
  /-- Some look behind has no single width. -/
  uneven : Bool := false

abbrev Reader := StateT ReadState (Except ReadFault)

def fail {α : Type} : Reader α := throw .malformed

/-- The next token, which stays. -/
def peek : Reader (Option Token) := do
  match (← get).rest with
  | [] => return none
  | .dangling :: _ => fail
  | t :: _ => return some t

def skip (n : Nat) : Reader Unit := modify fun s => { s with rest := s.rest.drop n }

def take : Reader (Option Token) := do
  let t ← peek
  skip 1
  return t

/-- Takes the character if it is next. -/
def accept (c : Char) : Reader Bool := do
  if (← peek) = some (.plain c) then
    skip 1
    return true
  else return false

def expect (c : Char) : Reader Unit := do
  if !(← accept c) then fail

/-- Takes the plain characters that satisfy `p`, at most `n` of them. -/
def takeWhile (p : Char → Bool) (n : Nat) : Reader (List Char) := do
  let taken := ((← get).rest.take n).takeWhile fun
    | .plain c => p c
    | _ => false
  skip taken.length
  return taken.flatMap Token.text

/-- Takes the tokens before the character, and the character. -/
def takeUntil (c : Char) : Reader (List Char) := do
  let taken := (← get).rest.takeWhile (· ≠ .plain c)
  skip taken.length
  expect c
  return taken.flatMap Token.text

/-- A nonempty text before the closing character. -/
def readName (closing : Char) : Reader (List Char) := do
  let name ← takeUntil closing
  if name.isEmpty then fail
  return name

def isHexDigit (c : Char) : Bool := (Numeral.digitValue? 16 c).isSome
def isOctalDigit (c : Char) : Bool := (Numeral.digitValue? 8 c).isSome

def valueOf (base : Nat) (ds : List Char) : Nat :=
  ds.foldl (fun v c => v * base + (Numeral.digitValue? base c).getD 0) 0

/-- A point written with exactly `n` hexadecimal digits. -/
def readHex (n : Nat) : Reader Nat := do
  let ds ← takeWhile isHexDigit n
  if ds.length ≠ n ∨ valueOf 16 ds > 0x10ffff then fail
  return valueOf 16 ds

def lastOctal : Nat := 0o377

/-- A point written in octal digits. -/
def octal (ds : List Char) : Reader Nat := do
  if valueOf 8 ds > lastOctal then fail
  return valueOf 8 ds

/-- The points that escapes of letters stand for. -/
def letterPoint? : Char → Option Nat
  | 'a' => some 7
  | 'f' => some 12
  | 'n' => some 10
  | 'r' => some 13
  | 't' => some 9
  | 'v' => some 11
  | _ => none

def kind? : Char → Option Member
  | 'd' => some (.kind .digit true)
  | 'D' => some (.kind .digit false)
  | 's' => some (.kind .blank true)
  | 'S' => some (.kind .blank false)
  | 'w' => some (.kind .word true)
  | 'W' => some (.kind .word false)
  | _ => none

def anchor? (m : Mode) : Char → Option Anchor
  | 'A' => some .textStart
  | 'Z' => some .textEnd
  | 'b' => some (.wordEdge m.ascii true)
  | 'B' => some (.wordEdge m.ascii false)
  | _ => none

/-- The point of an escape that stands for one both inside and outside a set. A letter without a meaning of its own
may not be escaped. -/
def escapedPoint (c : Char) : Reader Nat := do
  match letterPoint? c with
  | some n => return n
  | none =>
    if c = 'x' then readHex 2
    else if c = 'u' then readHex 4
    else if c = 'U' then readHex 8
    else if c.isAlpha ∨ c.isDigit then fail
    else return c.toNat

/-- An escape inside a set. -/
def setEscape (c : Char) : Reader Member := do
  match kind? c with
  | some k => return k
  | none =>
    if c = 'b' then return .point 8
    else if isOctalDigit c then return .point (← octal (c :: (← takeWhile isOctalDigit 2)))
    else return .point (← escapedPoint c)

/-- One member of a set, or the first end of a range. -/
def setMember (t : Token) : Reader Member :=
  match t with
  | .plain c => return .point c.toNat
  | .escaped c => setEscape c
  | .dangling => fail

/-- The range between two points in ascending order. -/
def rangeOf : Member → Member → Reader Member
  | .point low, .point high => if low ≤ high then return .range low high else fail
  | _, _ => fail

/-- The members of a set up to its closing bracket, which may stand first as a member. -/
def readMembers : Nat → List Member → Reader (List Member)
  | 0, _ => fail
  | fuel + 1, members => do
    match ← take with
    | none => fail
    | some t =>
      if t = .plain ']' ∧ members ≠ [] then return members
      let first ← setMember t
      if !(← accept '-') then readMembers fuel (members ++ [first])
      else match ← take with
        | none => fail
        | some u =>
          if u = .plain ']' then return members ++ [first, .point '-'.toNat]
          readMembers fuel (members ++ [← rangeOf first (← setMember u)])

def lettersOf (m : Mode) (members : List Member) (negated : Bool) : Letters :=
  { members, negated, ignoreCase := m.ignoreCase, ascii := m.ascii }

/-- A set after its opening bracket; members count once. -/
def readSet (m : Mode) : Reader Pattern := do
  let negated ← accept '^'
  let members ← readMembers ((← get).rest.length + 1) []
  return .letter (lettersOf m members.eraseDups negated)

/-- A part of a sequence, and what may follow it. -/
structure Part where
  pattern : Pattern
  isAnchor : Bool := false
  isRepetition : Bool := false

def pointPart (m : Mode) (n : Nat) : Part := { pattern := .letter (lettersOf m [.point n] false) }

/-- A group can be referred to once it is closed; inside a look behind only if it was opened before. -/
def requireClosed (n : Nat) : Reader Unit := do
  let s ← get
  if (s.widths.lookup n).isNone then fail

def requireBefore (n : Nat) : Reader Unit := do
  match (← get).behind with
  | none => return
  | some opened =>
    requireClosed n
    if n > opened then fail

/-- The group of the given number once more. -/
def againPart (m : Mode) (n : Nat) : Reader Part := do
  requireClosed n
  requireBefore n
  return { pattern := .again n m.ignoreCase m.ascii }

/-- An escape that starts with a digit: three octal digits are a point, else one or two digits a group. -/
def digitEscape (m : Mode) (c : Char) : Reader Part := do
  if c = '0' then return pointPart m (← octal (c :: (← takeWhile isOctalDigit 2)))
  match ← takeWhile Char.isDigit 1 with
  | [d] =>
    if isOctalDigit c && isOctalDigit d then
      match ← takeWhile isOctalDigit 1 with
      | [e] => return pointPart m (← octal [c, d, e])
      | _ => againPart m (valueOf 10 [c, d])
    else againPart m (valueOf 10 [c, d])
  | _ => againPart m (valueOf 10 [c])

/-- An escape outside a set. -/
def escapePart (m : Mode) (c : Char) : Reader Part := do
  match anchor? m c, kind? c with
  | some a, _ => return { pattern := .anchor a, isAnchor := true }
  | none, some k => return { pattern := .letter (lettersOf m [k] false) }
  | none, none => if c.isDigit then digitEscape m c else return pointPart m (← escapedPoint c)

/-- Numbers of repetitions stay below this one. -/
def countLimit : Nat := 0xffffffff

/-- The number of repetitions in the given digits. -/
def countOf (ds : List Char) : Reader Nat := do
  if ds.length > Numeral.decimalLimit then throw .numeralTooLong
  if valueOf 10 ds ≥ countLimit then throw .countTooLarge
  return valueOf 10 ds

/-- Least and greatest number of repetitions after an opening brace; none if the brace stands for itself. -/
def readBounds : Reader (Option (Nat × Option Nat)) := do
  let start := (← get).rest
  if start.head? = some (.plain '}') then return none
  let n := start.length
  let low ← takeWhile Char.isDigit n
  let high ← if ← accept ',' then takeWhile Char.isDigit n else pure low
  if !(← accept '}') then
    modify fun s => { s with rest := start }
    return none
  let _ ← peek
  let least ← if low.isEmpty then pure 0 else countOf low
  if high.isEmpty then return some (least, none)
  let most ← countOf high
  if most < least then fail
  return some (least, some most)

/-- The bounds that a character of repetition stands for. -/
def boundsOf (c : Char) : Reader (Option (Nat × Option Nat)) :=
  if c = '?' then return some (0, some 1)
  else if c = '*' then return some (0, none)
  else if c = '+' then return some (1, none)
  else readBounds

def readGreed : Reader Greed := do
  if ← accept '?' then return .lazy
  else if ← accept '+' then return .possessive
  else return .greedy

/-- Repeats the last part; an anchor or a repetition cannot be repeated. -/
def repeatLast (least : Nat) (most : Option Nat) (parts : List Part) : Reader (List Part) := do
  match parts with
  | [] => fail
  | p :: before =>
    if p.isAnchor ∨ p.isRepetition then fail
    let greed ← readGreed
    return { pattern := .repetition greed least most p.pattern, isRepetition := true } :: before

/-- The letters that name modes. -/
def modeLetters : List Char := ['i', 'm', 's', 'x', 'a', 'u', 't']

/-- Whether the letters for alphabets are at odds. -/
def atOdds (on : List Char) : Bool := on.contains 'a' && on.contains 'u'

def Mode.turnOn (on : List Char) (m : Mode) : Mode :=
  { ignoreCase := m.ignoreCase || on.contains 'i'
    multiLine := m.multiLine || on.contains 'm'
    dotAll := m.dotAll || on.contains 's'
    verbose := m.verbose || on.contains 'x'
    ascii := m.ascii || on.contains 'a'
    unicode := m.unicode || on.contains 'u'
    plain := m.plain || on.contains 't' }

/-- The mode inside a group; the alphabet named there replaces the one outside. -/
def Mode.scoped (on off : List Char) (m : Mode) : Mode :=
  { ignoreCase := (m.ignoreCase || on.contains 'i') && !off.contains 'i'
    multiLine := (m.multiLine || on.contains 'm') && !off.contains 'm'
    dotAll := (m.dotAll || on.contains 's') && !off.contains 's'
    verbose := (m.verbose || on.contains 'x') && !off.contains 'x'
    ascii := (m.ascii && !on.contains 'u') || on.contains 'a'
    unicode := m.unicode
    plain := m.plain }

/-- What a group of mode letters does. -/
inductive ModeChange where
  | forAll (on : List Char)
  | inside (on off : List Char)

/-- The letters to turn off, up to the colon. -/
def readOff (on : List Char) : Reader ModeChange := do
  let off ← takeWhile modeLetters.contains (← get).rest.length
  expect ':'
  if off.isEmpty ∨ off.any (fun c => c = 'a' ∨ c = 'u' ∨ c = 't' ∨ on.contains c) then fail
  return .inside on off

/-- Mode letters after the first character of their group. -/
def readModes (c : Char) : Reader ModeChange := do
  if c = '-' then readOff []
  else
    let on := c :: (← takeWhile modeLetters.contains (← get).rest.length)
    if atOdds on then fail
    if ← accept ')' then return .forAll on
    if on.contains 't' then fail
    if ← accept '-' then readOff on
    else
      expect ':'
      return .inside on []

/-- Opens a group, named or not. -/
def openGroup (name : Option String) : Reader Nat := do
  let s ← get
  let n := s.groups + 1
  match name with
  | none => set { s with groups := n }
  | some name =>
    if (s.names.lookup name).isSome then fail
    set { s with groups := n, names := (name, n) :: s.names }
  return n

def closeGroup (n : Nat) (p : Pattern) : Reader Unit :=
  modify fun s => { s with widths := (n, p.width s.widths) :: s.widths }

def identifierName (closing : Char) : Reader String := do
  let name ← readName closing
  if !Text.isIdentifier name then fail
  return String.ofList name

def groupNamed (name : String) : Reader Nat := do
  match (← get).names.lookup name with
  | some n => return n
  | none => fail

/-- The group that a condition asks for, by name or by number; a group of that number may come later. -/
def readCondition : Reader Nat := do
  let name ← readName ')'
  let n ← if Text.isIdentifier name then groupNamed (String.ofList name) else
    match Numeral.read? .decimal (String.ofList name) with
    | some (.ofNat (n + 1)) =>
      if n + 1 ≥ 0x7fffffff then fail
      modify fun s => { s with asked := (n + 1) :: s.asked }
      pure (n + 1)
    | _ => fail
  requireBefore n
  return n

/-- Widths up to here can be looked behind. -/
def behindLimit : Nat := 0xffffffff

/-- The part for a look behind at a pattern; one without a single width is refused in the end. -/
def behindPart (holds : Bool) (p : Pattern) : Reader Part := do
  let s ← get
  let w := p.width s.widths
  if w.least ≠ w.greatest ∨ w.least > behindLimit then set { s with uneven := true }
  return { pattern := .behind holds w.least p }

/-- Reads the body of a look behind. -/
def lookingBehind (body : Reader Pattern) : Reader Pattern := do
  let s ← get
  match s.behind with
  | some _ => body
  | none =>
    set { s with behind := some s.groups }
    let p ← body
    modify fun s => { s with behind := none }
    return p

/-- What a group stands for in its sequence. -/
inductive GroupPart where
  | part (p : Part)
  | nothing
  | modes (on : List Char)

def isVerboseBlank (t : Token) : Bool :=
  match t with
  | .plain c => c = ' ' || (9 ≤ c.toNat && c.toNat ≤ 13)
  | _ => false

/-- The anchors for the start and the end of a line. -/
def lineStart (m : Mode) : Anchor := if m.multiLine then .lineStart else .textStart
def lineEnd (m : Mode) : Anchor := if m.multiLine then .lineEnd else .lastLineEnd

/-- Any character, a line feed only if the mode says so. -/
def anyLetter (m : Mode) : Letters :=
  { members := if m.dotAll then [] else [.point 10], negated := true }

/-- The part for one plain character that has no structure. -/
def plainPart (m : Mode) (c : Char) : Part :=
  if c = '.' then { pattern := .letter (anyLetter m) }
  else if c = '^' then { pattern := .anchor (lineStart m), isAnchor := true }
  else if c = '$' then { pattern := .anchor (lineEnd m), isAnchor := true }
  else pointPart m c.toNat

/-- Parts in reverse order as one pattern. -/
def joinParts (parts : List Part) : Pattern := ofList (parts.reverse.map (·.pattern))

def isRepeater (c : Char) : Bool := c = '?' || c = '*' || c = '+' || c = '{'

mutual

/-- Alternatives up to a closing parenthesis or the end; `top` at the outermost level. -/
def readChoices : Nat → Mode → Bool → Bool → Reader (List Pattern)
  | 0, _, _, _ => fail
  | fuel + 1, m, top, first => do
    let s ← get
    let m := if top then s.mode else m
    let p ← readParts fuel m (top && first) []
    if ← accept '|' then return p :: (← readChoices fuel m top false)
    else return [p]

/-- A sequence of parts; `first` at the very start of the text, where modes for all of it may stand. -/
def readParts : Nat → Mode → Bool → List Part → Reader Pattern
  | 0, _, _, _ => fail
  | fuel + 1, m, first, parts => do
    match ← peek with
    | none | some (.plain '|') | some (.plain ')') => return joinParts parts
    | some t =>
      skip 1
      if m.verbose && isVerboseBlank t then readParts fuel m first parts
      else match t with
        | .dangling => fail
        | .escaped c => readParts fuel m first ((← escapePart m c) :: parts)
        | .plain c =>
          if m.verbose && c = '#' then
            let rest := (← get).rest
            skip (rest.takeWhile fun t => t ≠ .plain '\n' ∧ t ≠ .dangling).length
            readParts fuel m first parts
          else if c = '[' then readParts fuel m first ({ pattern := ← readSet m } :: parts)
          else if isRepeater c then
            match ← boundsOf c with
            | some (least, most) => readParts fuel m first (← repeatLast least most parts)
            | none => readParts fuel m first (pointPart m c.toNat :: parts)
          else if c = '(' then
            match ← readGroup fuel m with
            | .part p => readParts fuel m first (p :: parts)
            | .nothing => readParts fuel m first parts
            | .modes on =>
              if first && parts.isEmpty then
                modify fun s => { s with mode := Mode.turnOn on s.mode }
                let s ← get
                readParts fuel s.mode first parts
              else fail
          else readParts fuel m first (plainPart m c :: parts)

/-- A group after its opening parenthesis. -/
def readGroup : Nat → Mode → Reader GroupPart
  | 0, _ => fail
  | fuel + 1, m => do
    if !(← accept '?') then readCapture fuel m none
    else match ← take with
      | some (.plain ':') => return .part { pattern := ← readBody fuel m }
      | some (.plain '>') => return .part { pattern := .atomic (← readBody fuel m) }
      | some (.plain '=') => return .part { pattern := .ahead true (← readBody fuel m) }
      | some (.plain '!') => return .part { pattern := .ahead false (← readBody fuel m) }
      | some (.plain '#') =>
        let _ ← takeUntil ')'
        return .nothing
      | some (.plain '<') =>
        if ← accept '=' then return .part (← behindPart true (← lookingBehind (readBody fuel m)))
        else
          expect '!'
          return .part (← behindPart false (← lookingBehind (readBody fuel m)))
      | some (.plain 'P') =>
        if ← accept '<' then readCapture fuel m (some (← identifierName '>'))
        else
          expect '='
          return .part (← againPart m (← groupNamed (← identifierName ')')))
      | some (.plain '(') =>
        let n ← readCondition
        let yes ← readParts fuel m false []
        let no ← if ← accept '|' then readParts fuel m false [] else pure .empty
        expect ')'
        return .part { pattern := .ifGroup n yes no }
      | some (.plain c) =>
        if c = '-' || modeLetters.contains c then
          match ← readModes c with
          | .forAll on => return .modes on
          | .inside on off => return .part { pattern := ← readBody fuel (Mode.scoped on off m) }
        else fail
      | _ => fail

/-- Alternatives and the closing parenthesis. -/
def readBody : Nat → Mode → Reader Pattern
  | 0, _ => fail
  | fuel + 1, m => do
    let ps ← readChoices fuel m false false
    expect ')'
    return ofChoices ps

/-- The body of a group that keeps its text. -/
def readCapture : Nat → Mode → Option String → Reader GroupPart
  | 0, _, _ => fail
  | fuel + 1, m, name => do
    let n ← openGroup name
    let p ← readBody fuel m
    closeGroup n p
    return .part { pattern := .group n p }

end

/-- Reads all of the text. -/
def readAll (fuel : Nat) : Reader Pattern := do
  let p := ofChoices (← readChoices fuel {} true true)
  let s ← get
  if s.mode.ascii && s.mode.unicode then throw .modeConflict
  if !s.rest.isEmpty || s.asked.any (· > s.groups) || s.uneven || (s.mode.plain && p.hasRepetition) then fail
  return p

/-- The pattern that a text denotes. -/
def read (text : String) : Except ReadFault Pattern :=
  let ts := tokens text.toList
  StateT.run' (readAll (5 * ts.length + 5)) { rest := ts }

end ObjcAtlas.Pattern
