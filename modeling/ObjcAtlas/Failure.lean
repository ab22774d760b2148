import ObjcAtlas.Declaration
import ObjcAtlas.Document.Reader
import ObjcAtlas.Files.Tree
import ObjcAtlas.Text.Quoted

/-! Why an operation fails. The causes that a caller is told of by a message of the tool come first; the others are
faults of a value, a file or a text that no operation accounts for. -/
namespace ObjcAtlas

/-- A run is asked for something it cannot do. -/
inductive ConfigurationFault where
  | invalidAddress (text : String)
  | badPattern (pattern : String)
  | noAddress
  | unreadableAddresses (path : Path)
  | cacheRequired
  deriving DecidableEq

/-- Metadata or a cache document cannot be read. -/
inductive MetadataFault where
  | notObject
  | unreadable (path : Path)
  | badSection (binary : String) (name : String) (fault : Document.Fault)
  | cache (fault : Document.Fault)
  | unreadableCache (path : Path)
  | cacheNotObject (path : Path)
  deriving DecidableEq

inductive Failure where
  | configuration (fault : ConfigurationFault)
  | sectionMissing (binary : String) (name : String)
  | noMetadata (binary : String)
  | metadata (fault : MetadataFault)
  | imageMissing (name : String)
  | headerUnwritable (path : Path)
  | addressUnmapped (address : Int)
  /-- A value of a wrong kind that surfaces after decoding. -/
  | value (fault : Document.Fault)
  | missingType (fault : MissingType)
  | file (fault : FileFault)
  /-- Bytes that are no UTF-8 text. -/
  | undecodable
  | numeralTooLong
  /-- A directory mode outside the range of the file system. -/
  | modeOutOfRange
  /-- A repetition count in a pattern beyond every limit. -/
  | countOutOfRange
  /-- A pattern that asks both for ASCII and for all scripts. -/
  | patternModes
  /-- An operation ends that is no longer on the stack. -/
  | noOperation
  /-- A look-up of a key that is not there. -/
  | missing (key : String)
  deriving DecidableEq

namespace Document

/-- The word for a fault inside a message. -/
def Fault.label : Fault → String
  | .missingKey key => "KeyError(" ++ Text.quoted key ++ ")"
  | .wrongKind => "TypeError"
  | .notRecord => "AttributeError"
  | .badNumeral => "ValueError"
  | .infiniteNumeral => "OverflowError"

end Document

def FileFault.message : FileFault → String
  | .notFound => "no such file or directory"
  | .notDirectory => "not a directory"
  | .isDirectory => "is a directory"
  | .alreadyExists => "already exists"
  | .nameTooLong => "a name is too long"
  | .embeddedNull => "a path has a null character"

def ConfigurationFault.message : ConfigurationFault → String
  | .invalidAddress text => "invalid address " ++ Text.quoted text
  | .badPattern pattern => "failed to compile regex " ++ Text.quoted pattern ++ ": "
  | .noAddress => "give a virtual address or --in FILE"
  | .unreadableAddresses path => "failed to read addresses from " ++ path.toString ++ ": "
  | .cacheRequired => "a shared cache is required to process imported frameworks"

def MetadataFault.message : MetadataFault → String
  | .notObject => "metadata document must be a JSON object"
  | .unreadable path => "failed to load metadata " ++ path.toString ++ ": "
  | .badSection binary name fault => binary ++ ": malformed ObjC " ++ name ++ ": " ++ fault.label
  | .cache fault => "malformed shared cache document: " ++ fault.label
  | .unreadableCache path => "failed to open shared cache " ++ path.toString ++ ": "
  | .cacheNotObject path => "shared cache " ++ path.toString ++ " must be a JSON object"

namespace Failure

/-- The message of a failure that the tool declares. -/
def message? : Failure → Option String
  | .configuration fault => some fault.message
  | .sectionMissing binary name => some (binary ++ ": no ObjC " ++ name ++ " section")
  | .noMetadata binary => some (binary ++ " does not contain objc info")
  | .metadata fault => some fault.message
  | .imageMissing name => some ("image not in shared cache: " ++ name)
  | .headerUnwritable path => some ("failed to write header " ++ path.toString ++ ": ")
  | .addressUnmapped address => some ("address " ++ Numeral.hex address ++ " is not in any image")
  | _ => none

/-- Whether the tool declares the failure; it then ends a command in an orderly way. -/
def isDeclared (f : Failure) : Bool := f.message?.isSome

/-- What a journal says of a failure. -/
def text (f : Failure) : String :=
  match f with
  | .missing key => Text.quoted key
  | .value (.missingKey key) => Text.quoted key
  | .value fault => fault.label
  | .missingType _ => "a type is missing"
  | .file fault => fault.message
  | .undecodable => "a file is no UTF-8 text"
  | .numeralTooLong => "a numeral is too long"
  | .modeOutOfRange => "a directory mode is out of range"
  | .countOutOfRange => "a repetition count is out of range"
  | .patternModes => "a pattern has contradictory modes"
  | .noOperation => "pop from empty list"
  | f => f.message?.getD ""

end Failure
end ObjcAtlas
