import ObjcAtlas.Entity.Basic
import ObjcAtlas.Text.Basic
import ObjcAtlas.TypeEncoding.Declarator

/-! Declarations of entities as Objective-C text, and their one-line summaries. -/
namespace ObjcAtlas

/-- A type that is no text in the metadata cannot be declared. -/
inductive MissingType where
  | ofIvar
  | ofProperty
  deriving DecidableEq

namespace Declaration

/-- The adopted protocols in angle brackets, nothing if there are none. -/
def adopted : List String → String
  | [] => ""
  | names => " <" ++ Text.joinWith ", " names ++ ">"

/-- A type before a name; a blank type counts as any object. -/
def typed (type name : String) : String :=
  let type := if (Text.strip type).isEmpty then "id" else Text.strip type
  type ++ (if TypeEncoding.endsWithStar type.toList then "" else " ") ++ name

def attributeList : List String → String
  | [] => ""
  | names => "(" ++ Text.joinWith ", " names ++ ") "

def ofProperty (p : Property) : Except MissingType String :=
  match p.type with
  | some type => .ok ("@property " ++ attributeList p.attributes ++ typed type p.name ++ ";")
  | none => .error .ofProperty

/-- The type a method returns; a missing or empty one counts as any object. -/
def returnText (m : Method) : String := (nonemptyText? m.returnType).getD "id"

/-- The components of a selector with their arguments, numbered from `index`; arguments without a type
are named only. -/
def selectorSegments : Nat → List String → List String → List String
  | _, [], _ => []
  | index, part :: parts, [] =>
    (part ++ ":arg" ++ toString index) :: selectorSegments (index + 1) parts []
  | index, part :: parts, type :: types =>
    (part ++ ":(" ++ type ++ ")arg" ++ toString index) :: selectorSegments (index + 1) parts types

/-- The components of a selector: the texts before its colons. -/
def selectorParts (selector : String) : List String :=
  (Text.fields ':' selector.toList).dropLast.map String.ofList

def ofMethod (isClassMethod : Bool) (m : Method) : String :=
  (if isClassMethod then "+" else "-") ++ " (" ++ returnText m ++ ")" ++
    (match selectorParts m.name with
      | [] => m.name
      | parts => Text.joinWith " " (selectorSegments 0 parts m.explicitArgumentTypes)) ++ ";"

/-- A titled block of methods, nothing if there are none. -/
def methodBlock (title : String) (isClassMethod : Bool) : List Method → List String
  | [] => []
  | ms => "" :: ("/* " ++ title ++ " */") :: ms.map (ofMethod isClassMethod)

/-- Class methods, then instance methods. -/
def methodBlocks (classMethods instanceMethods : List Method) : List String :=
  methodBlock "class methods" true classMethods ++ methodBlock "instance methods" false instanceMethods

def propertyBlock : List Property → Except MissingType (List String)
  | [] => .ok []
  | ps => do return "" :: (← ps.mapM ofProperty)

def ofIvar (v : Ivar) : Except MissingType String :=
  match v.type with
  | some type => .ok ("  " ++ TypeEncoding.declaration type v.name ++ ";")
  | none => .error .ofIvar

/-- The opening line of a class with its instance variables, if it has any. -/
def opening (header : String) : List Ivar → Except MissingType (List String)
  | [] => .ok [header]
  | vs => do return (header ++ " \x7b") :: "  /* instance variables */" :: (← vs.mapM ofIvar) ++ ["\x7d"]

/-- Lines as a text that ends with a line feed. -/
def lines (ls : List String) : String := Text.joinWith "\n" ls ++ "\n"

def inherited (superclass : String) : String := if superclass.isEmpty then "" else " : " ++ superclass

def ofClass (c : ObjcClass) : Except MissingType String := do
  let top ← opening ("@interface " ++ c.name ++ inherited c.superclass ++ adopted c.protocols) c.ivars
  let properties ← propertyBlock c.properties
  return lines (top ++ properties ++ methodBlocks c.classMethods c.instanceMethods ++ ["", "@end"])

/-- The members that an adopter may leave out. -/
def optionalBlock (p : ObjcProtocol) : List String :=
  if p.optionalClassMethods.isEmpty && p.optionalInstanceMethods.isEmpty then []
  else "" :: "@optional" :: methodBlocks p.optionalClassMethods p.optionalInstanceMethods

def ofProtocol (p : ObjcProtocol) : Except MissingType String := do
  let properties ← propertyBlock p.properties
  return lines (("@protocol " ++ p.name ++ adopted p.protocols) :: properties ++
    methodBlocks p.classMethods p.instanceMethods ++ optionalBlock p ++ ["", "@end"])

/-- The class name in a category whose class is unresolved. -/
def unresolvedClass : String := "__UNRESOLVED__"

def ofCategory (c : Category) : Except MissingType String := do
  let base := (nonemptyText? c.className).getD unresolvedClass
  let properties ← propertyBlock c.properties
  return lines (("@interface " ++ base ++ " (" ++ c.name ++ ")" ++ adopted c.protocols) :: properties ++
    methodBlocks c.classMethods c.instanceMethods ++ ["", "@end"])

def summaryOfClass (c : ObjcClass) : String := "@interface " ++ c.name ++ inherited c.superclass

def summaryOfProtocol (p : ObjcProtocol) : String := "@protocol " ++ p.name

def summaryOfCategory (c : Category) : String :=
  "@interface " ++ (nonemptyText? c.className).getD "?" ++ " (" ++ c.name ++ ")"

end Declaration
end ObjcAtlas
