import Memberwise.Schema.Reading

/-! # Schemas that are kept

Making a schema takes longer than reading by it, so a schema is made once for a type.  Types
that are the same share one, and unions are the same in any order of their members: whichever
spelling comes first decides which member wins where several are equally good.
-/

namespace Memberwise

/-- The types that schemas have been made for, in the order in which they came. -/
structure SchemaCache where
  types : List TypeExpr

namespace SchemaCache

def empty : SchemaCache := ⟨[]⟩

def contains (known : SchemaCache) (t : TypeExpr) : Bool := known.types.any (·.same t)

/-- The spelling of a type that its schema is made from. -/
def spelling (known : SchemaCache) (t : TypeExpr) : TypeExpr :=
  (known.types.find? (·.same t)).getD t

def schema? (known : SchemaCache) (classes : Classes) (t : TypeExpr) : Option Schema :=
  Schema.describe? classes (known.spelling t)

/-- The schemas that are known once that of a type has been asked for.  A type without a schema
is asked for in vain each time, and so is one that cannot be looked up. -/
def remember (known : SchemaCache) (classes : Classes) (t : TypeExpr) : SchemaCache :=
  if known.contains t || !t.isHashable classes || (Schema.describe? classes t).isNone then known
  else ⟨known.types ++ [t]⟩

@[simp]
theorem spelling_empty (t : TypeExpr) : empty.spelling t = t := rfl

theorem spelling_of_not_contains {known : SchemaCache} {t : TypeExpr}
    (h : known.contains t = false) : known.spelling t = t := by
  simp only [contains, List.any_eq_false] at h
  simp [spelling, List.find?_eq_none.mpr h]

end SchemaCache

end Memberwise
