import Memberwise.Value.Key

/-! # Structure of type expressions

Equality of types, under which the order of a union does not matter, the construction of
unions, and the reading of optional types: a union of one type with that of the absent value
is that type made optional.
-/

namespace Memberwise.TypeExpr

mutual

/-- Whether two type expressions denote the same type.  Unions and literals are compared as
sets, whatever their spelling. -/
def same : TypeExpr → TypeExpr → Bool
  | .cls a, .cls b => a == b
  | .special a, .special b => a == b
  | .generic a, .generic b => a == b
  | .applied h as, .applied k bs => h == k && sameArgs as bs
  | .union _ as, .union _ bs => coveredBy as bs && bs.all (someSame as)
  | .literal as, .literal bs =>
    as.all (fun a => bs.any fun b => a.token == b.token && a.classOf == b.classOf) &&
      bs.all fun b => as.any fun a => a.token == b.token && a.classOf == b.classOf
  | .annotated a, .annotated b => same a b
  | .initOnly m _, .initOnly n _ => m == n
  | .forward a, .forward b => a == b
  | .ellipsis, .ellipsis => true
  | .value v, .value w => v.shape == w.shape
  | _, _ => false

/-- Whether two lists of type arguments agree place by place. -/
def sameArgs : List TypeExpr → List TypeExpr → Bool
  | [], [] => true
  | a :: as, b :: bs => same a b && sameArgs as bs
  | _, _ => false

/-- Whether every type of a list is the same as one of another list. -/
def coveredBy : List TypeExpr → List TypeExpr → Bool
  | [], _ => true
  | a :: as, bs => bs.any (fun b => same a b) && coveredBy as bs

/-- Whether some type of a list is the same as a given one. -/
def someSame : List TypeExpr → TypeExpr → Bool
  | [], _ => false
  | a :: as, b => same a b || someSame as b

end

instance : BEq TypeExpr := ⟨same⟩

/-- Drops every type that is the same as an earlier one. -/
def dedup : List TypeExpr → List TypeExpr :=
  fun types => types.foldl (fun kept t => if kept.any (same · t) then kept else kept ++ [t]) []

/-- The members of a union, or the type itself. -/
def unionMembers : TypeExpr → List TypeExpr
  | .union _ members => members
  | t => [t]

/-- The union of types: unions among them are flattened and repetitions dropped; a union of
one type is that type. -/
def unionOf (style : UnionStyle) (types : List TypeExpr) : TypeExpr :=
  match dedup (types.flatMap unionMembers) with
  | [t] => t
  | members => .union style members

def optional (t : TypeExpr) : TypeExpr := unionOf .named [t, .noneType]

/-- Whether the bar between two types makes a union in bar style.  Named generic types keep
the named style. -/
def joinsByBar : TypeExpr → Bool
  | .cls _ => true
  | .applied (.builtin _) _ => true
  | .union .bar _ => true
  | _ => false

/-- The union of two types as written with a bar between them. -/
def bar (a b : TypeExpr) : TypeExpr :=
  unionOf (if joinsByBar a && joinsByBar b then .bar else .named) [a, b]

mutual

/-- Whether a type can be looked up.  An unhashable value in the place of a type cannot. -/
def isHashable (classes : Classes) : TypeExpr → Bool
  | .value v => classes.isHashable v
  | .applied _ args => areHashable classes args
  | .union _ members => areHashable classes members
  | .annotated t => isHashable classes t
  | _ => true

def areHashable (classes : Classes) : List TypeExpr → Bool
  | [] => true
  | t :: rest => isHashable classes t && areHashable classes rest

end

/-- Whether a type allows the absent value: a union that has its type as a member. -/
def isOptional : TypeExpr → Bool
  | .union _ members => members.any isNoneType
  | _ => false

/-- The type that an optional type makes optional; any other type is left as it is. -/
def unwrapOptional (t : TypeExpr) : TypeExpr :=
  match t with
  | .union _ members =>
    match members.filter fun member => !member.isNoneType with
    | [inner] => if 1 < members.length then inner else t
    | _ => t
  | t => t

/-- Whether unwrapping changes a type. -/
def isWrapped : TypeExpr → Bool
  | .union _ members =>
    (members.filter fun member => !member.isNoneType).length == 1 && 1 < members.length
  | _ => false

/-- An optional type in its named spelling; any other type is left as it is. -/
def normalize (t : TypeExpr) : TypeExpr :=
  if t.isWrapped then optional t.unwrapOptional else t

/-- Whether a type is the bare base of the generic classes. -/
def isGenericBase : TypeExpr → Bool
  | .cls (.builtin .generic) => true
  | _ => false

/-- The normal spelling of a type, if it has one.  A bar may make the bare base of the generic
classes optional, which no name of an option does. -/
def normalize? (t : TypeExpr) : Option TypeExpr :=
  if t.isWrapped && t.unwrapOptional.isGenericBase then none else some t.normalize

/-- The class that a generic type applies or stands for; a plain class is its own origin. -/
def originClass? : TypeExpr → Option ClassRef
  | .cls c => some c
  | .generic a => some (.builtin a.origin)
  | .applied (.alias a) _ => some (.builtin a.origin)
  | .applied (.builtin b) _ => some (.builtin b)
  | .applied (.declared name) _ => some (.declared name)
  | _ => none

/-- The class behind a generic type; a plain class has none. -/
def genericOrigin? : TypeExpr → Option ClassRef
  | .cls (.builtin .generic) => some (.builtin .generic)
  | .cls _ => none
  | t => t.originClass?

def args : TypeExpr → List TypeExpr
  | .applied _ args => args
  | .union _ members => members
  | _ => []

def plainClass? : TypeExpr → Option ClassRef
  | .cls (.builtin .generic) => none
  | .cls c => some c
  | _ => none

end Memberwise.TypeExpr
