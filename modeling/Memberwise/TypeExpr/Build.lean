import Memberwise.TypeExpr.Shape

/-! # Building type expressions

Types by their names, and the application of generic types, forms and classes to arguments.
Not every application is a type: generic types check the number of their arguments, and most
forms cannot be arguments.
-/

namespace Memberwise

/-- How many arguments a named generic type takes; none where it takes any number. -/
def Alias.arity? (a : Alias) : Option Nat :=
  match a.origin with
  | .tuple | .callable => none
  | .hashable | .sized => some 0
  | .dict | .defaultdict | .orderedDict | .mapping | .mutableMapping | .itemsView => some 2
  | .generator => some 3
  | _ => some 1

namespace Builtin

def isGeneric : Builtin → Bool
  | list | tuple | set | frozenset | dict | type | deque | counter | defaultdict | orderedDict =>
    true
  | hashable | sized => false
  | b => b.isCollectionInterface

end Builtin

namespace TypeExpr

/-- The type of a name: a declared class, a predefined class, a named generic type or a form. -/
def ofName? (classes : Classes) (name : String) : Option TypeExpr :=
  if (classes.find? name).isSome then some (.cls (.declared name))
  else if name == "..." then some .ellipsis
  else if name.startsWith "abc." then
    (Builtin.interfaceOfName? (name.drop 4).toString).map fun b => .builtin b
  else
    match Builtin.ofName? name, Alias.all.find? (·.name == name),
      SpecialForm.all.find? (·.name == name) with
    | some b, _, _ => some (.builtin b)
    | none, some a, _ => some (.generic a)
    | none, none, some f => some (.special f)
    | none, none, none => none

/-- A type as the argument of a named generic type: a text is a name to be resolved, and the
absent value stands for its type. -/
def argument : TypeExpr → TypeExpr
  | .value (.atom (.str name)) => .forward name
  | .value (.atom .none) => .noneType
  | t => t

/-- Whether a type may stand where any type may, a form for the attributes of a class included:
within a note. -/
def isAnnotatable : TypeExpr → Bool
  | .special .classVar | .special .final => true
  | .special .noReturn | .special .never | .special .selfType | .special .typeAlias
  | .special .literalString => true
  | .special _ | .cls (.builtin .generic) => false
  | .value (.seq _ .tuple _) => false
  | _ => true

/-- Whether a type is a form for the attributes of a class, which no note hides. -/
def isClassForm : TypeExpr → Bool
  | .special .classVar | .special .final => true
  | .annotated (.special .classVar) | .annotated (.special .final) => true
  | .applied (.form .classVar) _ | .applied (.form .final) _ => true
  | _ => false

def isArgument (t : TypeExpr) : Bool := t.isAnnotatable && !t.isClassForm

/-- The arguments of a named generic type, unless one of them cannot be one. -/
def arguments? (args : List TypeExpr) : Option (List TypeExpr) :=
  let args := args.map argument
  if args.all isArgument then some args else none

/-- The union of types in its named spelling. -/
def namedUnion? (args : List TypeExpr) : Option TypeExpr :=
  if args.isEmpty then none else (arguments? args).map (unionOf .named)

/-- Whether a bar beside a type spells a union in words: generic types by name and forms. -/
def joinsInWords : TypeExpr → Bool
  | .special _ | .generic _ | .union .named _ | .literal _ | .annotated _ | .forward _ => true
  | .applied (.builtin _) _ => false
  | .applied _ _ => true
  | _ => false

/-- The union of two types with a bar between them.  A class joins the absent value as it joins
a class; a form or a named generic type joins whatever can be an argument. -/
def barUnionOf? (a b : TypeExpr) : Option TypeExpr :=
  if joinsByBar a && joinsByBar b then some (bar a b)
  else if joinsByBar a && (b matches .value (.atom .none)) then some (bar a .noneType)
  else if (a matches .value (.atom .none)) && joinsByBar b then some (bar .noneType b)
  else if joinsInWords a || joinsInWords b then namedUnion? [a, b]
  else none

/-- The union of types written with bars between them. -/
def barUnion? : List TypeExpr → Option TypeExpr
  | [] => none
  | first :: rest => rest.foldlM barUnionOf? first

def applyForm? (f : SpecialForm) (args : List TypeExpr) : Option TypeExpr :=
  match f, args with
  | .optional, [t] => namedUnion? [t, .noneType]
  | .union, args => namedUnion? args
  | .annotated, [t] =>
    let t := argument t
    if t.isAnnotatable then some (.annotated t) else none
  | .classVar, [t] | .final, [t] | .required, [t] | .notRequired, [t] | .unpack, [t]
  | .typeGuard, [t] => (arguments? [t]).map (.applied (.form f))
  | _, _ => none

def applyTo? (classes : Classes) (head : TypeExpr) (args : List TypeExpr) : Option TypeExpr :=
  match head with
  | .generic a =>
    if (a.arity?.map (· == args.length)).getD true && a.arity? != some 0 then
      match a.origin, args with
      | .tuple, [t, .ellipsis] =>
        (arguments? [t]).map fun args => .applied (.alias a) (args ++ [.ellipsis])
      | _, args => (arguments? args).map (.applied (.alias a))
    else none
  | .special f => applyForm? f args
  | .cls (.builtin b) => if b.isGeneric then some (.applied (.builtin b) args) else none
  | .cls (.declared name) =>
    match classes.kindOf? name with
    | some (.bag ..) =>
      match args with
      | [.value (.seq _ .tuple _)] => none
      | [t] => some (.applied (.declared name) [argument t])
      | _ => none
    | _ => none
  | _ => none

/-- The type of the tuple without elements. -/
def emptyTuple : TypeExpr := .applied (.alias ⟨"Tuple", .tuple⟩) []

/-- A literal type: its values, each once for each class. -/
def ofLiterals (values : List Atom) : TypeExpr :=
  .literal (values.foldl (fun kept a =>
    if kept.any fun b => a.token == b.token && a.classOf == b.classOf then kept
    else kept ++ [a]) [])

end TypeExpr

end Memberwise
