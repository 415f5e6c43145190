import Memberwise.Conversion.Scalar
import Memberwise.Fault
import Memberwise.Schema.Cache
import Memberwise.Schema.Plain

/-! # Conversion of values

A value is converted into a type by the first of these means that applies: it is of the type
already, both are scalars, the schema of the type reads it, or the schema reads its plain form.
Schemas are made once and kept, so what was converted before may decide how a type is read.
-/

namespace Memberwise

def RenderFault.fault : RenderFault → Fault
  | .tooManyDigits => .value tooLongToWrite
  | .missingAttribute .. => .missingAttribute
  | .getter message => .value message

/-- The fault of a value without a plain form, if it is not taken for a rejection. -/
def Schema.PlainFault.escape? : Schema.PlainFault → Option Fault
  | .undescribed => none
  | .undecodable => some .undecodable
  | .circular => some (.value "Circular reference detected (id repeated)")
  | .tooDeep => some (.value "Circular reference detected (depth exceeded)")
  | .unread fault => some fault.fault

namespace Classes

def shown (classes : Classes) (v : Value) : Except Fault String :=
  match classes.render v with
  | .ok text => .ok (String.ofList text)
  | .error fault => .error fault.fault

/-- The fault of a failed conversion, unless the value cannot even be shown. -/
def conversionFault (classes : Classes) (v : Value) (target : TypeExpr)
    (reason : ConversionReason) : Fault :=
  match classes.shown v with
  | .ok shown => .conversion ⟨shown, classes.typeName v, classes.targetName target, reason⟩
  | .error fault => fault

end Classes

namespace Conversion

/-- Whether a value is an instance of the class that a type is.  A truth value is an instance
of the class of integers, but is to be converted all the same. -/
def isConverted (classes : Classes) (v : Value) (target : TypeExpr) : Bool :=
  match target.plainClass? with
  | none => false
  | some c =>
    match v, c with
    | .atom (.bool _), .builtin .int => false
    | v, c => classes.isInstance v c

/-- The schema that describes a value by its own class. -/
def ownSchema? (classes : Classes) (v : Value) : Option Schema :=
  match v with
  | .atom (.classRef c) =>
    if classes.typeName (.atom (.classRef c)) == "type" then some (.instanceOf (.builtin .type))
    else none
  | v => Schema.describe? classes (.cls v.classOf)

/-- Converts by schemas: that of the target reads the value, or else its plain form. -/
def convertBySchema (classes : Classes) (known : SchemaCache) (v : Value) (target : TypeExpr) :
    Except Fault Value :=
  let rejected := classes.conversionFault v target .rejected
  if !target.isHashable classes then .error .typeMismatch
  else
    let schema := known.schema? classes target
    match schema.bind fun s => Schema.read? classes s v with
    | some result => .ok result
    | none =>
      match ownSchema? classes v with
      | none => .error rejected
      | some _ =>
        match Schema.plain classes v with
        | .error fault => .error (fault.escape?.getD rejected)
        | .ok plain =>
          if isConverted classes plain target then .ok plain
          else
            match schema.bind fun s => Schema.read? classes s plain with
            | some result => .ok result
            | none => .error rejected

/-- The means by which a value is converted. -/
inductive Means where
  /-- The value is of the type already. -/
  | none
  /-- Value and type are scalars. -/
  | scalar (kind : ScalarKind) (a : Atom)
  /-- The schema of the type decides. -/
  | schema

/-- The means by which a value that is present is converted into a type that is not optional. -/
def meansFor (classes : Classes) (v : Value) (target : TypeExpr) : Means :=
  if target == .any || target == .builtin .object || isConverted classes v target then .none
  else
    match classes.scalarKind? v.classOf, target.plainClass?.bind classes.scalarKind?, v.core? with
    | some _, some kind, some a => .scalar kind a
    | _, _, _ => .schema

def convertPresent (classes : Classes) (known : SchemaCache) (v : Value) (type : TypeExpr) :
    Except Fault Value :=
  let target := type.unwrapOptional
  match meansFor classes v target with
  | .none => .ok v
  | .scalar kind a =>
    match convertScalar (classes.typeName v) kind a with
    | .ok result => .ok (.atom result)
    | .error reason => .error (classes.conversionFault v target (.stated reason))
  | .schema => convertBySchema classes known v target

/-- Converts a value into a type; the absent value is converted into no type. -/
def convertWith (classes : Classes) (known : SchemaCache) (v : Value) (type : TypeExpr) :
    Except Fault Value :=
  if v.isNone then .error (classes.conversionFault v type (.stated "value must not be None"))
  else convertPresent classes known v type

/-- Converts a value into a type, with a value to fall back on where there is nothing to
convert or the conversion fails. -/
def convertOrWith (classes : Classes) (known : SchemaCache) (v : Value) (type : TypeExpr)
    (default : Value) : Value :=
  if v.isNone then default
  else
    match convertPresent classes known v type with
    | .ok result => result
    | .error _ => default

/-- The schemas that are known after a conversion. -/
def knownAfter (classes : Classes) (known : SchemaCache) (v : Value) (type : TypeExpr) :
    SchemaCache :=
  let target := type.unwrapOptional
  if v.isNone then known
  else
    match meansFor classes v target with
    | .schema => known.remember classes target
    | _ => known

/-- Converts a value into a type where no schema has been made before. -/
def convert (classes : Classes) (v : Value) (type : TypeExpr) : Except Fault Value :=
  convertWith classes .empty v type

/-- Converts a value into a type or falls back on a value, where no schema has been made
before. -/
def convertOr (classes : Classes) (v : Value) (type : TypeExpr) (default : Value) : Value :=
  convertOrWith classes .empty v type default

end Conversion

end Memberwise
