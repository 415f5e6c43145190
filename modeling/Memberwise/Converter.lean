import Memberwise.Conversion
import Memberwise.Registry
import Memberwise.TypeExpr.Resolve

/-! # Custom converters

What may be registered for pairs of types: functions that are known by name, any other functions of
what a value holds, and values in the place of functions.  A function may state its types, by which
it can be registered on its own.
-/

namespace Memberwise

/-- The functions that are known by name. -/
inductive Function where
  | identity
  /-- The value as plain text. -/
  | text
  /-- The value added to itself. -/
  | double
  | isNone
  | length
  | upper
  /-- The number 99, whatever the value. -/
  | number
  /-- The value as a decimal number, zero where there is nothing. -/
  | decimal
  /-- A mapping with its values made integers. -/
  | integers
  | failing
deriving DecidableEq, Repr

namespace Function

def name : Function → String
  | identity => "identity"
  | text => "to_str"
  | double => "double"
  | isNone => "is_none"
  | length => "length"
  | upper => "upper"
  | number => "const_99"
  | decimal => "to_decimal"
  | integers => "dict_values_to_int"
  | failing => "fail"

def all : List Function := [
  identity, text, double, isNone, length, upper, number, decimal, integers, failing]

def ofName? (name : String) : Option Function := all.find? (·.name == name)

theorem ofName?_name (f : Function) : ofName? f.name = some f := by
  cases f <;> decide +kernel

end Function

/-- A function of what a value holds.  It never looks at where objects are: of objects at other
places it makes the same, and those that it passes on stay where they are. -/
structure PureFunction where
  name : String
  apply : Value → Except Fault Value
  natural : ∀ ρ : Place → Place, (∀ p q, ρ p = ρ q → p = q) → ∀ v,
    apply (v.rename ρ) = (apply v).map (Value.rename ρ)

/-- The types that a function states for its parameters and its result. -/
structure Signature where
  parameters : List (String × Option TypeExpr)
  returns : Option TypeExpr

/-- The signature of a function that states nothing. -/
def Signature.unstated : Signature := ⟨[("value", none)], none⟩

/-- A converter: a function with its signature, or any other value. -/
inductive Converter where
  | function (f : Function) (signature : Signature)
  | pure (f : PureFunction) (signature : Signature)
  | value (v : Value)

namespace Converter

/-- A converter in messages. -/
def shown (classes : Classes) : Converter → Except Fault String
  | function f _ => .ok ("<function " ++ f.name ++ ">")
  | pure f _ => .ok ("<function " ++ f.name ++ ">")
  | value v => classes.shown v

def name (classes : Classes) : Converter → String
  | function f _ => f.name
  | pure f _ => f.name
  | value (.atom (.classRef c)) => c.name
  | value v => classes.typeName v

/-- Whether a converter can be called: functions and classes can, and so can the objects of a
class that says so. -/
def isCallable (classes : Classes) : Converter → Bool
  | function .. | pure .. => true
  | value (.atom (.classRef _)) => true
  | value v => (classes.binding? v.classOf "__call__").isSome

/-- A rejection that shows the converter, unless it cannot be shown. -/
def rejection (classes : Classes) (f : Converter) (fault : String → ConfigurationFault) : Fault :=
  match f.shown classes with
  | .ok text => .configuration (fault text)
  | .error fault => fault

/-- The types that a converter states: that of its first parameter and that of its result. -/
def statedTypes (classes : Classes) (f : Converter) : Except Fault (TypeExpr × TypeExpr) := do
  let resolve (t : TypeExpr) : Except Fault TypeExpr :=
    match t.resolve classes with
    | .ok t => .ok t
    | .error (.unresolved _) => .error .unresolvedName
    | .error (.raised kind) => .error (.raised kind)
  let unstated := f.rejection classes .noAnnotations
  match f with
  | function _ signature | pure _ signature =>
    let hints ← signature.parameters.mapM fun (_, t) => t.mapM resolve
    let returns ← signature.returns.mapM resolve
    match hints, returns with
    | some source :: _, some target => .ok (source, target)
    | _, _ => .error unstated
  | value (.atom (.classRef c)) =>
    let _ ← ((classes.declsOf c).flatMap fun decl => decl.annotations.map (·.2)).mapM resolve
    .error unstated
  | value _ => .error unstated

end Converter

namespace Registry

def note (classes : Classes) (source target : TypeExpr) : String :=
  "registry: Registered custom converter " ++ (RuleKey.of classes source target).text classes

/-- The registry with a converter for a pair of types, unless it cannot be called. -/
def registerConverter (r : Registry Converter) (classes : Classes) (source target : TypeExpr)
    (f : Converter) : Except Fault (Registry Converter) :=
  if !f.isCallable classes then
    .error (f.rejection classes
      (.rejectedRule (classes.shortName source) (classes.shortName target)))
  else if !(RuleKey.of classes source target).isUsable classes then .error .typeMismatch
  else .ok (r.register classes source target f)

/-- The types for which a converter registers on its own. -/
def typesOfFunction (classes : Classes) (f : Converter) : Except Fault (TypeExpr × TypeExpr) :=
  if !f.isCallable classes then .error (f.rejection classes .rejectedFunction)
  else f.statedTypes classes

end Registry

end Memberwise
