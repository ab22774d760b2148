import ObjcAtlas.Document.Basic
import ObjcAtlas.Entity.Basic

/-! Entities read from the records of a metadata document. A record is read in a fixed order of fields, so that
the first fault in it is the one reported. A name must be text, and a type, a selector or the name of another class
text or a blank value. -/
namespace ObjcAtlas
open Document (Fault)

/-- A field as `read` takes it; a missing one stands for `default`. -/
def Document.fieldOr {α : Type} (read : Document → Except Fault α) (default : α) (key : String) (d : Document) :
    Except Fault α := do
  match ← d.field? key with
  | some v => read v
  | none => return default

/-- The name that every record has. -/
def Document.nameField (d : Document) : Except Fault String := do
  (← d.field "name").asText

def Ivar.ofRecord (d : Document) : Except Fault Ivar := do
  let offset ← d.field? "offset"
  let name ← d.nameField
  let type ← d.fieldOr Document.asEncoding (some "") "type"
  let offset ← Document.optionalInteger offset
  return { name, type, offset }

def Property.ofRecord (d : Document) : Except Fault Property := do
  let name ← d.nameField
  let type ← d.fieldOr Document.asOptionalText (some "") "type"
  let attributes ← d.fieldTexts "attributes"
  let getter ← d.fieldOr Document.asOptionalText none "getter"
  let setter ← d.fieldOr Document.asOptionalText none "setter"
  return { name, type, attributes, getter, setter }

def Method.ofRecord (d : Document) : Except Fault Method := do
  let name ← d.nameField
  let returnType ← d.fieldOr (fun v => .ok v.shownText?) (some "void") "return_type"
  let argumentTypes ← d.fieldTexts "argument_types"
  return { name, returnType, argumentTypes }

/-- The records of an optional field, each read by `read`. -/
def Document.records {α : Type} (read : Document → Except Fault α) (key : String) (d : Document) :
    Except Fault (List α) := do
  (← d.fieldItems key).mapM read

def ObjcClass.ofRecord (d : Document) : Except Fault ObjcClass := do
  let address ← d.field? "address"
  let name ← d.nameField
  let superclass ← d.fieldOr Document.asNonblankText none "superclass"
  let protocols ← d.fieldTexts "protocols"
  let ivars ← d.records Ivar.ofRecord "ivars"
  let properties ← d.records Property.ofRecord "properties"
  let instanceMethods ← d.records Method.ofRecord "instance_methods"
  let classMethods ← d.records Method.ofRecord "class_methods"
  let address ← Document.optionalInteger address
  return { name, superclass := superclass.getD "", protocols, ivars, properties, instanceMethods,
           classMethods, address }

def ObjcProtocol.ofRecord (d : Document) : Except Fault ObjcProtocol := do
  let name ← d.nameField
  let identity ← (← d.field "identity").integer
  let protocols ← d.fieldTexts "protocols"
  let properties ← d.records Property.ofRecord "properties"
  let instanceMethods ← d.records Method.ofRecord "instance_methods"
  let classMethods ← d.records Method.ofRecord "class_methods"
  let optionalInstanceMethods ← d.records Method.ofRecord "optional_instance_methods"
  let optionalClassMethods ← d.records Method.ofRecord "optional_class_methods"
  return { name, identity, protocols, properties, instanceMethods, classMethods,
           optionalInstanceMethods, optionalClassMethods }

def Category.ofRecord (d : Document) : Except Fault Category := do
  let name ← d.nameField
  let className ← d.fieldOr Document.asNonblankText none "class"
  let protocols ← d.fieldTexts "protocols"
  let properties ← d.records Property.ofRecord "properties"
  let instanceMethods ← d.records Method.ofRecord "instance_methods"
  let classMethods ← d.records Method.ofRecord "class_methods"
  return { name, className, protocols, properties, instanceMethods, classMethods }

end ObjcAtlas
