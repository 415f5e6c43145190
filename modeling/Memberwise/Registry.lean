import Memberwise.Member

/-! # Rules for custom conversion

A registry holds conversion functions under ordered pairs of types.  The types are brought to
their keys first, and keys are compared as types, so that every spelling of a pair finds the
same rule; a later rule for a pair replaces the earlier one.
-/

namespace Memberwise

/-- An ordered pair of types in the form in which they are compared. -/
structure RuleKey where
  source : TypeExpr
  target : TypeExpr

namespace RuleKey

/-- The key of a pair of types. -/
def of (classes : Classes) (source target : TypeExpr) : RuleKey :=
  ⟨classes.keyType source, classes.keyType target⟩

/-- Whether two keys are of the same types. -/
def same (a b : RuleKey) : Bool := a.source.same b.source && a.target.same b.target

def text (classes : Classes) (k : RuleKey) : String :=
  classes.shortName k.source ++ " -> " ++ classes.shortName k.target

/-- Whether a key can be looked up. -/
def isUsable (classes : Classes) (k : RuleKey) : Bool :=
  k.source.isHashable classes && k.target.isHashable classes

end RuleKey

/-- A registry of functions of any kind, in the order in which their keys came. -/
structure Registry (Converter : Type) where
  rules : List (RuleKey × Converter)

namespace Registry

variable {Converter : Type}

def empty : Registry Converter := ⟨[]⟩

instance : Inhabited (Registry Converter) := ⟨empty⟩

def find? (r : Registry Converter) (k : RuleKey) : Option Converter :=
  (r.rules.find? fun rule => rule.1.same k).map (·.2)

/-- The registry with a rule under a key, in the place of an earlier one. -/
def insert (r : Registry Converter) (k : RuleKey) (f : Converter) : Registry Converter :=
  if r.rules.any fun rule => rule.1.same k then
    ⟨r.rules.map fun rule => if rule.1.same k then (rule.1, f) else rule⟩
  else ⟨r.rules ++ [(k, f)]⟩

def lookup (r : Registry Converter) (classes : Classes) (source target : TypeExpr) :
    Option Converter :=
  r.find? (.of classes source target)

def register (r : Registry Converter) (classes : Classes) (source target : TypeExpr)
    (f : Converter) : Registry Converter :=
  r.insert (.of classes source target) f

def contains (r : Registry Converter) (classes : Classes) (source target : TypeExpr) : Bool :=
  r.rules.any fun rule => rule.1.same (.of classes source target)

/-- The function for a pair of types, if there is one.  The key has to be usable even where there
are no rules at all. -/
def ruleFor (r : Registry Converter) (classes : Classes) (source target : TypeExpr) :
    Except Fault (Option Converter) :=
  if (RuleKey.of classes source target).isUsable classes then .ok (r.lookup classes source target)
  else .error .typeMismatch

/-- Whether there is a rule for a pair of types, which again has to have a usable key. -/
def hasRuleFor (r : Registry Converter) (classes : Classes) (source target : TypeExpr) :
    Except Fault Bool :=
  if (RuleKey.of classes source target).isUsable classes then .ok (r.contains classes source target)
  else .error .typeMismatch

def size (r : Registry Converter) : Nat := r.rules.length

@[simp]
theorem size_empty : (empty : Registry Converter).size = 0 := rfl

end Registry

end Memberwise
