import Memberwise.TypeExpr.Source

/-! # Resolving names in type expressions

Annotations may name classes that are declared later.  When hints are read, the texts among them
are read as types of the declared classes and of the scalar and container classes, and notes that
annotated types carry are dropped at every depth, the marks of required keys among them.
-/

namespace Memberwise

namespace TypeExpr

/-- The union of types in a given style, as if written member by member. -/
def unionIn (style : UnionStyle) (members : List TypeExpr) : TypeExpr :=
  match style, members with
  | .bar, first :: rest => rest.foldl bar first
  | _, members => unionOf .named members

mutual

/-- A type expression with the texts in it read. -/
def resolveInner (classes : Classes) : TypeExpr → Except TextFault TypeExpr
  | .forward text => classes.typeOfText text
  | .applied (.builtin b) args => do
    .ok (.applied (.builtin b) (← resolveArgs classes args))
  | .applied head args => do .ok (.applied head (← resolveInners classes args))
  | .union style members => do .ok (unionIn style (← resolveInners classes members))
  | .annotated t => do .ok (.annotated (← resolveInner classes t))
  | t => .ok t

def resolveInners (classes : Classes) : List TypeExpr → Except TextFault (List TypeExpr)
  | [] => .ok []
  | t :: rest => do
    let resolved ← resolveInner classes t
    let others ← resolveInners classes rest
    .ok (resolved :: others)

/-- Arguments of a class, among which a bare text is read too. -/
def resolveArgs (classes : Classes) : List TypeExpr → Except TextFault (List TypeExpr)
  | [] => .ok []
  | .value (.atom (.str text)) :: rest => do
    let resolved ← classes.typeOfText text
    let others ← resolveArgs classes rest
    .ok (resolved :: others)
  | t :: rest => do
    let resolved ← resolveInner classes t
    let others ← resolveArgs classes rest
    .ok (resolved :: others)

end

mutual

/-- A type expression without the notes of annotated types. -/
def stripNotes : TypeExpr → TypeExpr
  | .annotated t => stripNotes t
  | .applied (.form .required) [t] | .applied (.form .notRequired) [t] => stripNotes t
  | .applied head args => .applied head (stripAll args)
  | .union style members => unionIn style (stripAll members)
  | t => t

def stripAll : List TypeExpr → List TypeExpr
  | [] => []
  | t :: rest => stripNotes t :: stripAll rest

end

/-- An annotation with the texts in it read; at the top a bare text is read too, and the absent value
stands for its type. -/
def resolveTop (classes : Classes) : TypeExpr → Except TextFault TypeExpr
  | .value (.atom (.str text)) => classes.typeOfText text
  | .value (.atom .none) => .ok .noneType
  | t => resolveInner classes t

def resolve (classes : Classes) (t : TypeExpr) : Except TextFault TypeExpr :=
  (t.resolveTop classes).map stripNotes

/-- A type without the notes at its top. -/
def withoutTopNotes : TypeExpr → TypeExpr
  | .annotated t => withoutTopNotes t
  | t => t

/-- An annotation of a model: notes are dropped at the top only. -/
def resolveField (classes : Classes) (t : TypeExpr) : TypeExpr :=
  match t.resolveTop classes, t with
  | .ok t, _ => t.withoutTopNotes
  | .error _, .value (.atom (.str text)) => .forward text
  | .error _, t => t

end TypeExpr

end Memberwise
