import Memberwise.Fault
import Memberwise.TypeExpr

/-! # Class declarations

A class as its declaration states it: the kind of class, its bases, and the entries of its
body in order.  Nothing here is inherited or resolved yet.
-/

namespace Memberwise

/-- Whether a name is hidden by convention. -/
def isHiddenName (name : String) : Bool := name.startsWith "_"

/-- How a parameter takes its arguments. -/
inductive ParameterKind where
  | ordinary
  | keywordOnly
  /-- Takes all further arguments given by position. -/
  | restByPosition
  /-- Takes all further arguments given by name. -/
  | restByName
deriving DecidableEq, Repr

structure Parameter where
  name : String
  type : Option TypeExpr
  default : Option Value
  kind : ParameterKind

def Parameter.isSingle (p : Parameter) : Bool :=
  p.kind == .ordinary || p.kind == .keywordOnly

def Parameter.isRequired (p : Parameter) : Bool := p.isSingle && p.default.isNone

/-- An initializer: it forwards arguments to the next class in line, stores parameters in
attributes, stores further ones past any guard of the class, and may mention attribute names
in code that never runs. -/
structure Initializer where
  parameters : List Parameter
  forwards : Option (List String)
  stores : List (String × String)
  directStores : List (String × String)
  mentions : List String

/-- The function of a class that makes its objects before they are initialized.  It has a scalar class
wrap a scalar, or else the next class in line make the object, and gives that class no arguments. -/
structure Maker where
  parameters : List Parameter
  wraps : Option Atom

inductive GetterBody where
  | attribute (name : String)
  | constant (v : Value)
  | failing (message : String)

inductive SetterBody where
  | attribute (name : String)
  | failing (message : String)

/-- A getter with the type that it states.  Hints can be asked of functions only, not of other objects
that can be called. -/
structure Getter where
  type : Option TypeExpr
  body : GetterBody
  isFunction : Bool

structure Setter where
  type : Option TypeExpr
  returns : Option TypeExpr
  body : SetterBody
  isFunction : Bool

/-- What a field holds if nothing is given for it. -/
inductive FieldDefault where
  | missing
  | value (v : Value)
  /-- A value copied anew for every instance. -/
  | factory (v : Value)

/-- Whether a field may be left out. -/
def FieldDefault.isPresent : FieldDefault → Bool
  | .missing => false
  | _ => true

structure Field where
  name : String
  type : TypeExpr
  default : FieldDefault
  frozen : Bool
  otherName : Option String
  inInit : Bool
  keywordOnly : Option Bool

inductive Entry where
  | field (f : Field)
  | attribute (name : String) (v : Value)
  | method (name : String)
  /-- The method for iterating, which yields what an attribute of the object itself does. -/
  | iteration (source : String)
  | hidden (name : String) (v : Value)
  | property (name : String) (getter : Option Getter) (setter : Option Setter)
  | maker (m : Maker)

/-- What a record class asks to be generated for it. -/
structure RecordOptions where
  generatesInit : Bool
  showsFields : Bool
  comparesFields : Bool
  frozen : Bool
  keywordOnly : Bool
  usesSlots : Bool
  ordered : Bool
  forcesHash : Bool

/-- What a model does with names that it does not know. -/
inductive ExtraRule where
  | ignore
  | allow
  | forbid
deriving DecidableEq, Repr

/-- The settings of a model; those not given are inherited. -/
structure ModelOptions where
  frozen : Option Bool
  extra : Option ExtraRule
  validatesAssignment : Option Bool
  acceptsNames : Option Bool

/-- What a method of a program's own does that adds to a collection.  It may refuse the new element.
Otherwise it says which elements the collection holds from then on, by their numbers among those that it
held and the new one, which comes last.  It can look at the elements and tell which of them are the same
object, but what it does cannot depend on where they are kept. -/
structure Adder where
  arrange : List Value → Value → Except Fault (List Nat)
  natural : ∀ ρ : Place → Place, Function.Injective ρ → ∀ held v,
    arrange (held.map (Value.rename ρ)) (v.rename ρ) = arrange held v

namespace Adder

/-- The method that puts every element behind those that are there. -/
def behind : Adder where
  arrange held _ := .ok (List.range (held.length + 1))
  natural _ _ held _ := by rw [List.length_map]

/-- The method that puts every element in front of those that are there. -/
def inFront : Adder where
  arrange held _ := .ok (held.length :: List.range held.length)
  natural _ _ held _ := by rw [List.length_map]

end Adder

inductive ClassKind where
  | plain
  | record (options : RecordOptions)
  | model (options : ModelOptions)
  /-- An enumeration, possibly of values of a scalar class, with its members in order. -/
  | enumeration (mixin : Option Builtin) (members : List (String × Value))
  /-- A generic collection with its methods for appending and for adding, if it has them. -/
  | bag (append add : Option Adder) (isAbstract : Bool)

structure ClassDecl where
  name : String
  kind : ClassKind
  bases : List ClassRef
  slots : Option (List String)
  body : List Entry
  init : Option Initializer

namespace ClassDecl

def fields (c : ClassDecl) : List Field :=
  c.body.filterMap fun
    | .field f => some f
    | _ => none

/-- The annotations of the body in order; of two with one name the later one counts, at the
place of the earlier. -/
def annotations (c : ClassDecl) : List (String × TypeExpr) :=
  c.fields.foldl (fun known f =>
    if known.any (·.1 == f.name) then
      known.map fun (name, type) => if name == f.name then (name, f.type) else (name, type)
    else known ++ [(f.name, f.type)]) []

/-- The function that makes the objects of a class; of two the later one counts. -/
def maker? (c : ClassDecl) : Option Maker :=
  (c.body.filterMap fun
    | .maker m => some m
    | _ => none).getLast?

def isRecord (c : ClassDecl) : Bool := c.kind matches .record _

def isModel (c : ClassDecl) : Bool := c.kind matches .model _

end ClassDecl

inductive Binding where
  /-- A value kept by the class itself. -/
  | constant (v : Value)
  | property (getter : Option Getter) (setter : Option Setter)
  | method
  /-- The method for iterating, with the attribute that it iterates. -/
  | iteration (source : String)
  /-- A place kept on each instance. -/
  | slot

def Binding.isProperty : Binding → Bool
  | .property .. => true
  | _ => false

end Memberwise
