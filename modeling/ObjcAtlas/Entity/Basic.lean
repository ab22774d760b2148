import ObjcAtlas.Numeral
import ObjcAtlas.Text.Basic
import ObjcAtlas.Text.Case

/-! The entities of Objective-C metadata: members, classes, protocols and categories. A type that is a
blank value but no text in the metadata is kept as absent and fails only where its text is needed. -/
namespace ObjcAtlas

/-- An instance variable with its runtime type encoding. -/
structure Ivar where
  name : String
  type : Option String
  offset : Option Int := none
  deriving DecidableEq

/-- A declared property; its type is written as a declaration. -/
structure Property where
  name : String
  type : Option String
  attributes : List String := []
  getter : Option String := none
  setter : Option String := none
  deriving DecidableEq

/-- A method. Argument 0 is the receiver and argument 1 the selector; the explicit ones follow. -/
structure Method where
  name : String
  returnType : Option String := some "void"
  argumentTypes : List String := []
  deriving DecidableEq

structure ObjcClass where
  name : String
  superclass : String := ""
  protocols : List String := []
  ivars : List Ivar := []
  properties : List Property := []
  instanceMethods : List Method := []
  classMethods : List Method := []
  address : Option Int := none
  deriving DecidableEq

/-- A protocol. Two definitions are the same one exactly when their identities agree. -/
structure ObjcProtocol where
  name : String
  identity : Int
  protocols : List String := []
  properties : List Property := []
  instanceMethods : List Method := []
  classMethods : List Method := []
  optionalInstanceMethods : List Method := []
  optionalClassMethods : List Method := []
  deriving DecidableEq

/-- An identity as it is shown; a sign stands after the mark. -/
def ObjcProtocol.identityText (identity : Int) : String := "0x" ++ Numeral.bareHex identity

/-- A category; the class it extends may be unresolved. -/
structure Category where
  name : String
  className : Option String := none
  protocols : List String := []
  properties : List Property := []
  instanceMethods : List Method := []
  classMethods : List Method := []
  deriving DecidableEq

/-- Text that is there and not empty. -/
def nonemptyText? : Option String → Option String
  | some "" => none
  | s => s

/-- The selector that reads the property. -/
def Property.getterName (p : Property) : String := (nonemptyText? p.getter).getD p.name

/-- The selector that sets the property; an unnamed property has none. -/
def Property.setterName (p : Property) : String :=
  match nonemptyText? p.setter with
  | some s => s
  | none =>
    if p.name.isEmpty then ""
    else String.ofList ("set".toList ++ Text.upperFirst p.name.toList ++ [':'])

def Method.explicitArgumentTypes (m : Method) : List String := m.argumentTypes.drop 2

/-- The name of a category's header without its extension: `Class+Category`, or the category alone. -/
def Category.headerStem (c : Category) : String :=
  match nonemptyText? c.className with
  | some base => base ++ "+" ++ c.name
  | none => c.name

/-! Removal of what the compiler synthesizes for properties: backing variables, getters and setters. -/

/-- The property that a setter selector sets: `setFoo:` sets `foo`. Any other selector is left as it is. -/
def setterTarget (selector : String) : String :=
  match selector.toList with
  | 's' :: 'e' :: 't' :: rest =>
    if rest.getLast? = some ':' then String.ofList (Text.lowerFirst rest.dropLast) else selector
  | _ => selector

/-- The name that an instance variable backs: one leading underscore does not count. -/
def Ivar.backedName (v : Ivar) : String := Text.dropFirst '_' v.name

namespace ObjcClass

def propertyNames (c : ObjcClass) : List String := c.properties.map (·.name)

/-- Names and getter selectors of the properties. -/
def getterNames (c : ObjcClass) : List String := c.propertyNames ++ c.properties.map (·.getterName)

/-- Whether the compiler made the method for one of the properties. -/
def synthesizes (c : ObjcClass) (m : Method) : Bool :=
  c.getterNames.contains m.name || c.propertyNames.contains (setterTarget m.name)

/-- The class without backing variables and synthesized instance methods. -/
def withoutSynthesized (c : ObjcClass) : ObjcClass :=
  { c with
    ivars := c.ivars.filter fun v => !c.propertyNames.contains v.backedName
    instanceMethods := c.instanceMethods.filter fun m => !c.synthesizes m }

end ObjcClass
end ObjcAtlas
