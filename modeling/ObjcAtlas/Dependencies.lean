import ObjcAtlas.Header
import ObjcAtlas.Keyed
import ObjcAtlas.TypeEncoding.Reference

/-! The imports of every entity of a binary: what its declaration refers to, as headers of the same binary or
as names declared in advance. -/
namespace ObjcAtlas

/-- What the imports of a binary depend on: the system names, its own names and the root of classes. -/
structure Scope where
  foundation : FoundationIndex
  classNames : List String
  protocolNames : List String
  rootClass : String
  rootFramework : String

/-- The arguments of a method that are looked at: the receiver and the explicit ones, not the selector. -/
def walkedArguments {α : Type} : List α → List α
  | [] => []
  | receiver :: rest => receiver :: rest.drop 1

namespace TypeEncoding

/-- A type that is absent refers to nothing. -/
def optionalReferences (style : Style) : Option String → List TypeReference
  | some type => references style type
  | none => []

end TypeEncoding

open TypeEncoding (Style optionalReferences references)

def Method.references (m : Method) : List TypeReference :=
  (walkedArguments m.argumentTypes).flatMap (TypeEncoding.references .declaration)

/-- What a class refers to: protocols, instance variables, properties and methods. -/
def ObjcClass.references (c : ObjcClass) : List TypeReference :=
  c.protocols.map .toProtocol ++
  c.ivars.flatMap (fun v => optionalReferences .runtime v.type) ++
  c.properties.flatMap (fun p => optionalReferences .declaration p.type) ++
  (c.instanceMethods ++ c.classMethods).flatMap Method.references

/-- A protocol refers to the protocols that it adopts. -/
def ObjcProtocol.references (p : ObjcProtocol) : List TypeReference := p.protocols.map .toProtocol

/-- A category refers to the class that it extends. -/
def Category.references (c : Category) : List TypeReference :=
  ((nonemptyText? c.className).map TypeReference.toClass).toList

namespace Scope

/-- What one reference brings in: the header of an entity of the binary, else the name in advance. -/
def importOf (s : Scope) : TypeReference → Imports
  | .toClass n =>
    if s.classNames.contains n then { locals := [HeaderName.ofClass n] } else { classes := [n] }
  | .toProtocol n =>
    if s.protocolNames.contains n then { locals := [HeaderName.ofProtocol n] } else { protocols := [n] }

/-- What a list of references brings in, before normalization. -/
def importsOf (s : Scope) (refs : List TypeReference) : Imports :=
  refs.foldr (fun r i => s.importOf r ++ i) {}

/-- Only a class that extends the root class names the root framework. -/
def ofClass (s : Scope) (c : ObjcClass) : Imports :=
  let root : Imports := if c.superclass = s.rootClass then { frameworks := [s.rootFramework] } else {}
  (root ++ s.importsOf c.references).normalize s.foundation

def ofProtocol (s : Scope) (p : ObjcProtocol) : Imports :=
  (s.importsOf p.references).normalize s.foundation

def ofCategory (s : Scope) (c : Category) : Imports :=
  (s.importsOf c.references).normalize s.foundation

end Scope

/-- Imports of a binary's classes by name, protocols by identity and categories by header stem. -/
structure ModuleImports where
  classes : List (String × Imports) := []
  protocols : List (Int × Imports) := []
  categories : List (String × Imports) := []

/-- Of entities with one key the last decides. -/
def Scope.ofModule (s : Scope) (classes : List ObjcClass) (protocols : List ObjcProtocol)
    (categories : List Category) : ModuleImports where
  classes := Keyed.ofPairs (classes.map fun c => (c.name, s.ofClass c))
  protocols := Keyed.ofPairs (protocols.map fun p => (p.identity, s.ofProtocol p))
  categories := Keyed.ofPairs (categories.map fun c => (c.headerStem, s.ofCategory c))

namespace ModuleImports

def forClass (m : ModuleImports) (name : String) : Imports := (m.classes.lookup name).getD {}

def forProtocol (m : ModuleImports) (identity : Int) : Imports := (m.protocols.lookup identity).getD {}

def forCategory (m : ModuleImports) (stem : String) : Imports := (m.categories.lookup stem).getD {}

end ModuleImports
end ObjcAtlas
