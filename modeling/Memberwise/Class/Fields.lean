import Memberwise.Value.Key

/-! # Fields along a lineage

Record classes and models gather the fields of their ancestors.  A field declared again keeps
its place; class variables are no fields, and init-only variables are arguments only.
-/

namespace Memberwise

/-- Adds a field, in the place of an earlier one of its name. -/
def mergeField (known : List Field) (f : Field) : List Field :=
  if known.any (·.name == f.name) then known.map fun g => if g.name == f.name then f else g
  else known ++ [f]

namespace Classes

/-- The record classes of a lineage, most distant first. -/
def recordDecls (classes : Classes) (c : ClassRef) : List ClassDecl :=
  ((classes.declsOf c).filter ClassDecl.isRecord).reverse

def isRecord (classes : Classes) (c : ClassRef) : Bool :=
  (classes.declsOf c).any ClassDecl.isRecord

/-- What stands for a binding that is no value of a program. -/
def descriptor : Value := .object none "property" none []

/-- What a later entry of the body makes the default of a field. -/
def rebound? (decl : ClassDecl) (f : Field) : Option FieldDefault :=
  match decl.bodyBindings.lookup f.name, f.default with
  | some (.constant v), .missing => some (.value v)
  | some (.property ..), _ | some .method, _ | some (.iteration _), _ => some (.value descriptor)
  | _, _ => none

/-- The default of a field of a record class: its own, or what the name means on the ancestors
of the class. -/
def recordDefault (classes : Classes) (decl : ClassDecl) (f : Field) : FieldDefault :=
  match rebound? decl f, f.default with
  | some default, _ => default
  | none, .missing =>
    match ((classes.lineageOf (.declared decl.name)).drop 1).findSome? fun c =>
        (classes.declOf? c).bind fun parent => parent.bindings.lookup f.name with
    | some (.constant v) => .value v
    | some (.property ..) | some .method | some (.iteration _) => .value descriptor
    | some .slot | none => .missing
  | none, default => default

/-- What a record class annotates itself, init-only variables and class variables included. -/
def ownEntries (classes : Classes) (decl : ClassDecl) : List Field :=
  let keywordOnly :=
    match decl.kind with
    | .record options => options.keywordOnly
    | _ => false
  decl.fields.map fun f =>
    { f with
      default := classes.recordDefault decl f
      keywordOnly := some (f.keywordOnly.getD keywordOnly) }

/-- What the record classes of a lineage annotate. -/
def recordEntries (classes : Classes) (c : ClassRef) : List Field :=
  (classes.recordDecls c).foldl (fun known decl =>
    (classes.ownEntries decl).foldl mergeField known) []

/-- What the initializer of a record class takes: its fields and init-only variables.  A field
that is declared again as a class variable is none any more. -/
def recordArguments (classes : Classes) (c : ClassRef) : List Field :=
  (classes.recordEntries c).filter fun f => !f.type.isClassVariable

def recordFields (classes : Classes) (c : ClassRef) : List Field :=
  (classes.recordArguments c).filter fun f => !f.type.isInitOnly

/-- What the classes of the lineage of a model annotate under public names. -/
def modelEntries (classes : Classes) (c : ClassRef) : List Field :=
  (classes.declsOf c).reverse.foldl (fun known decl =>
    (decl.fields.filter fun f => !f.name.startsWith "_").foldl mergeField known) []

def modelFields (classes : Classes) (c : ClassRef) : List Field :=
  (classes.modelEntries c).filter fun f => !f.type.isClassVariable

/-- The hidden attributes of a model with their first values. -/
def hiddenAttributes (classes : Classes) (c : ClassRef) : List (String × Value) :=
  (classes.declsOf c).reverse.flatMap fun decl =>
    decl.body.filterMap fun
      | .hidden name v => some (name, v.detach)
      | .field f =>
        match f.default with
        | .value v | .factory v =>
          if f.name.startsWith "_" then some (f.name, v.detach) else none
        | .missing => none
      | _ => none

/-- The attributes of an object that are its own.  What a model keeps beyond its fields and
hidden attributes is not among them. -/
def ownAttributes {α : Type} (classes : Classes) (c : ClassRef)
    (attributes : List (String × α)) : List (String × α) :=
  if classes.isModel c then
    attributes.filter fun entry =>
      entry.1.startsWith "_" || (classes.modelFields c).any (·.name == entry.1)
  else attributes

end Classes

end Memberwise
