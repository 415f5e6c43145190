import Memberwise.Fault
import Memberwise.TypeExpr.Render

/-! # Members

A member is a field or a property of a class as a mapper sees it: its declared type in a normal
spelling, the type without its option, and what follows from the type alone.  Value kinds are
copied by value, all else by reference; only a value kind is nullable.
-/

namespace Memberwise

/-- The predefined classes whose instances are copied by value. -/
def valueKinds : List Builtin := [
  .bool, .int, .float, .complex, .decimal, .date, .time, .timedelta, .uuid, .enum]

/-- The predefined classes that can be iterated but are never collections. -/
def nonCollections : List Builtin := [.str, .bytes, .bytearray, .baseModel]

namespace Classes

def isValueClass (classes : Classes) (c : ClassRef) : Bool :=
  valueKinds.any (classes.descendsFrom c)

/-- Whether a type, optional or not, is a value kind. -/
def isValueKind (classes : Classes) (t : TypeExpr) : Bool :=
  t.unwrapOptional.plainClass?.any classes.isValueClass

/-- The type by which members are compared and rules are found.  An optional reference is the
reference itself, while an optional value kind is a kind of its own. -/
def keyType (classes : Classes) (t : TypeExpr) : TypeExpr :=
  if classes.isValueKind t then t.normalize else t.unwrapOptional

def isCollectionType (classes : Classes) (t : TypeExpr) : Bool :=
  match t.originClass? with
  | some c =>
    !nonCollections.any (classes.descendsFrom c) && classes.isSubclass c (.builtin .iterable)
  | none => false

/-- The arguments of a collection type; the mark for tuples of any length is left out. -/
def collectionArgs (classes : Classes) (t : TypeExpr) : List TypeExpr :=
  if classes.isCollectionType t then
    match t.originClass?, t.args with
    | some (.builtin .tuple), [a, .ellipsis] => [a]
    | _, args => args
  else []

/-- The zero of each value kind; a kind comes before those that it descends from. -/
def zeroValues : List (Builtin × Atom) := [
  (.bool, .bool false), (.int, .int 0), (.float, .float (.zero false)),
  (.complex, .complex (.zero false) (.zero false)), (.decimal, .decimal .zero),
  (.datetime, .datetime .first), (.date, .date .first), (.time, .time ⟨.midnight, none⟩),
  (.timedelta, .timedelta .zero), (.uuid, .uuid 0)]

/-- The value of a value kind that stands for nothing: its zero, or the first member of an
enumeration. -/
def zeroOf (classes : Classes) (c : ClassRef) : Value :=
  if classes.isEnumeration c then
    match classes.properMembers c.name with
    | (name, _) :: _ => .atom (.member c.name name)
    | [] => .none
  else
    match zeroValues.find? fun entry => classes.descendsFrom c entry.1 with
    | some (_, zero) => .atom zero
    | none => .none

/-- The value that a member of a type falls back on: none where none is allowed, else the zero
of its kind. -/
def defaultValue (classes : Classes) (t : TypeExpr) : Value :=
  if t.isOptional then .none
  else
    match t.plainClass? with
    | some c => if classes.isValueClass c then classes.zeroOf c else .none
    | none => .none

end Classes

structure Member where
  name : String
  declared : TypeExpr
  underlying : TypeExpr
  isValueKind : Bool
  isNullable : Bool
  isCollection : Bool
  typeArgs : List TypeExpr
  readable : Bool
  writable : Bool

namespace Member

def describe (classes : Classes) (name : String) (stated : TypeExpr)
    (readable writable : Bool) : Member :=
  let underlying := stated.unwrapOptional
  let isValueKind := classes.isValueKind underlying
  { name
    declared := stated.normalize
    underlying
    isValueKind
    isNullable := isValueKind && stated.isOptional
    isCollection := classes.isCollectionType underlying
    typeArgs := classes.collectionArgs underlying
    readable
    writable }

/-- A member of a stated type, unless the type has no normal spelling. -/
def describe? (classes : Classes) (name : String) (stated : TypeExpr)
    (readable writable : Bool) : Option Member :=
  stated.normalize?.map fun _ => describe classes name stated readable writable

def keyType (classes : Classes) (m : Member) : TypeExpr := classes.keyType m.declared

/-- Whether the type of the elements is known. -/
def isGenericCollection (m : Member) : Bool := m.isCollection && !m.typeArgs.isEmpty

/-- Whether a member is a collection of value kinds, texts or bytes. -/
def isCollectionOfScalar (classes : Classes) (m : Member) : Bool :=
  m.isCollection &&
    match m.typeArgs with
    | [t] => classes.isValueKind t || t == .builtin .str || t == .builtin .bytes
    | _ => false

end Member

end Memberwise
