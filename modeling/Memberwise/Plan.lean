import Memberwise.Member.Builder
import Memberwise.Registry

/-! # Plans

A plan says what a mapper does for one pair of classes: which source member goes to which
target member, and by which operation.  It is made once and then only carried out.
-/

namespace Memberwise

/-- The reason for which an operation was chosen. -/
inductive Strategy where
  | referenceIdentity
  | referenceMismatch
  | matchingNullability
  | mismatchedNullability
  | collection
deriving DecidableEq, Repr

def Strategy.name : Strategy → String
  | referenceIdentity => "reference_identity"
  | referenceMismatch => "reference_mismatch"
  | matchingNullability => "matching_nullability"
  | mismatchedNullability => "mismatched_nullability"
  | collection => "collection"

/-- What is done with the value of a source member. -/
inductive Operation (Converter : Type) where
  /-- The value itself is stored. -/
  | assign
  /-- The value is stored, or a default in the place of the absent value. -/
  | unwrapOr (default : Value)
  /-- What a registered function makes of the value is stored. -/
  | custom (f : Converter)
  /-- The value is converted into the type of the target, or a default stored. -/
  | convert (default : Value)
  /-- A new collection is stored, filled with the converted elements if they are copied. -/
  | copyCollection (elementType : TypeExpr) (builder : Builder) (copiesElements : Bool)
  /-- A value that is no operation. -/
  | foreign (v : Value)

def Operation.name {Converter : Type} : Operation Converter → String
  | assign => "assign"
  | unwrapOr _ => "unwrap_or_default"
  | custom _ => "custom"
  | convert _ => "convert"
  | copyCollection .. => "copy_collection"
  | foreign _ => "foreign"

/-- The transfer of one member. -/
structure Assignment (Converter : Type) where
  source : Member
  target : Member
  strategy : Strategy
  operation : Operation Converter

/-- The line that stands for an assignment in logs. -/
def Assignment.text {Converter : Type} (a : Assignment Converter) : String :=
  a.source.name ++ " -> " ++ a.target.name ++ " [" ++ a.strategy.name ++ "/" ++
    a.operation.name ++ "]"

/-- A step of a plan: an assignment, or a value that is no step. -/
inductive Step (Converter : Type) where
  | assignment (a : Assignment Converter)
  | foreign (v : Value)

/-- What a mapper does for a pair of classes. -/
structure Plan (Converter : Type) where
  source : ClassRef
  target : ClassRef
  createsTarget : Bool
  steps : List (Step Converter)

namespace Plan

variable {Converter : Type}

def assignments (p : Plan Converter) : List (Assignment Converter) :=
  p.steps.filterMap fun
    | .assignment a => some a
    | .foreign _ => none

/-- What is said to a caller who leaves out the source or the target. -/
def absenceMessage (p : Plan Converter) : String :=
  if p.createsTarget then
    "The source (" ++ p.source.qualifiedName ++ ") instance cannot be None."
  else
    "The source (" ++ p.source.qualifiedName ++ ") and target (" ++ p.target.qualifiedName ++
      ") instances cannot be None."

end Plan

end Memberwise
