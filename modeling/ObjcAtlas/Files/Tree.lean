import ObjcAtlas.Files.Path
import ObjcAtlas.Keyed

/-! A tree of directories and files as a value, and the operations on it with the ways they fail. Paths are
walked one component at a time from the root or the working directory. -/
namespace ObjcAtlas

inductive FileFault where
  | notFound
  | notDirectory
  | isDirectory
  | alreadyExists
  | nameTooLong
  /-- A path with a null character names nothing. -/
  | embeddedNull
  deriving DecidableEq

/-- Where a node is: the components from the root, without `.` and `..`. -/
abbrev Location := List String

inductive Node where
  | directory
  | file (content : ByteArray)

/-- Contents are compared byte by byte. -/
instance Node.decidableEq : DecidableEq Node
  | .directory, .directory => isTrue rfl
  | .directory, .file _ => isFalse nofun
  | .file _, .directory => isFalse nofun
  | .file ⟨a⟩, .file ⟨b⟩ =>
    if h : a = b then isTrue (congrArg (fun bytes => Node.file ⟨bytes⟩) h)
    else isFalse fun e => h (by injection e with e; injection e)

structure FileTree where
  nodes : List (Location × Node) := []
  workingDirectory : Location := []

namespace FileTree

/-- The root is always a directory. -/
def node? (t : FileTree) (loc : Location) : Option Node :=
  if loc = [] then some .directory else t.nodes.lookup loc

def set (loc : Location) (n : Node) (t : FileTree) : FileTree :=
  { t with nodes := Keyed.put loc n t.nodes }

@[simp] theorem node?_set_self {loc : Location} (h : loc ≠ []) (n : Node) (t : FileTree) :
    (t.set loc n).node? loc = some n := by
  simp [node?, set, h, Keyed.lookup_put_self]

theorem node?_set_other {loc other : Location} (h : other ≠ loc) (n : Node) (t : FileTree) :
    (t.set loc n).node? other = t.node? other := by
  simp [node?, set, Keyed.lookup_put_other h]

/-- Bytes in a component, and in a whole path. -/
def componentLimit : Nat := 255
def pathLimit : Nat := 4095

/-- Follows components through directories. The last one need not exist. -/
def walk (t : FileTree) : Location → List String → Except FileFault (Location × Option Node)
  | loc, [] => .ok (loc, t.node? loc)
  | loc, c :: cs =>
    match t.node? loc with
    | none => .error .notFound
    | some (.file _) => .error .notDirectory
    | some .directory =>
      if c = ".." then t.walk loc.dropLast cs
      else if c.utf8ByteSize > componentLimit then .error .nameTooLong
      else t.walk (loc ++ [c]) cs

/-- What a path leads to. -/
def find (t : FileTree) (p : Path) : Except FileFault (Location × Option Node) :=
  if p.toString.contains '\x00' then .error .embeddedNull
  else if p.toString.utf8ByteSize > pathLimit then .error .nameTooLong
  else t.walk (if p.root = "" then t.workingDirectory else []) p.parts

/-- The node that a path leads to; what cannot be reached does not exist. -/
def nodeAt (t : FileTree) (p : Path) : Except FileFault (Option Node) :=
  match t.find p with
  | .ok (_, n) => .ok n
  | .error .nameTooLong => .error .nameTooLong
  | .error _ => .ok none

def exists? (t : FileTree) (p : Path) : Except FileFault Bool :=
  return (← t.nodeAt p).isSome

def isFile (t : FileTree) (p : Path) : Except FileFault Bool :=
  return match ← t.nodeAt p with
    | some (.file _) => true
    | _ => false

/-- Whether an already existing directory excuses that it cannot be made. -/
def isDirectory (t : FileTree) (p : Path) : Bool :=
  match t.nodeAt p with
  | .ok (some .directory) => true
  | _ => false

def read (t : FileTree) (p : Path) : Except FileFault ByteArray :=
  match t.find p with
  | .error f => .error f
  | .ok (_, none) => .error .notFound
  | .ok (_, some .directory) => .error .isDirectory
  | .ok (_, some (.file content)) => .ok content

/-- Creates or replaces a file in an existing directory. -/
def write (t : FileTree) (p : Path) (content : ByteArray) : Except FileFault FileTree :=
  match t.find p with
  | .error f => .error f
  | .ok (_, some .directory) => .error .isDirectory
  | .ok (loc, _) => .ok (t.set loc (.file content))

/-- Makes one directory in an existing one. -/
def makeDirectory (t : FileTree) (p : Path) : Except FileFault FileTree :=
  match t.find p with
  | .error f => .error f
  | .ok (_, some _) => .error .alreadyExists
  | .ok (loc, none) => .ok (t.set loc .directory)

/-- The outcome of making a directory that may already be there. -/
def settle (t : FileTree) (p : Path) : Except FileFault FileTree → Except FileFault Unit × FileTree
  | .ok t' => (.ok (), t')
  | .error .embeddedNull => (.error .embeddedNull, t)
  | .error .notFound => (.error .notFound, t)
  | .error f => if t.isDirectory p then (.ok (), t) else (.error f, t)

/-- Makes a directory and those above it that are missing. What was made stays when a later step fails. -/
def makeDirectories (t : FileTree) (p : Path) : Except FileFault Unit × FileTree :=
  match t.makeDirectory p with
  | .error .notFound =>
    if h : p.parts = [] then (.error .notFound, t)
    else
      have := Path.length_parts_parent_lt h
      match t.makeDirectories p.parent with
      | (.error f, t') => (.error f, t')
      | (.ok (), t') => t'.settle p (t'.makeDirectory p)
  | r => t.settle p r
termination_by p.parts.length

/-- Relative paths below the working directory with their nodes. -/
def below (t : FileTree) : List (Location × Node) :=
  t.nodes.filterMap fun (loc, n) =>
    if t.workingDirectory.isPrefixOf loc && loc.length > t.workingDirectory.length then
      some (loc.drop t.workingDirectory.length, n)
    else none

end FileTree
end ObjcAtlas
