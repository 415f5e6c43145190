import Memberwise.Value

/-! # Type expressions

What a declaration may say about the type of a member: classes, generic collections with or
without arguments, unions in either spelling, literals, annotated and init-only types, names
yet to be resolved, and values that are no types at all.
-/

namespace Memberwise

/-- A form that is no class but may stand in a type expression. -/
inductive SpecialForm where
  | classVar | final | optional | union | literal | annotated | noReturn | never
  | required | notRequired | selfType | unpack | concatenate | typeGuard | typeAlias
  | literalString
deriving DecidableEq, Repr

def SpecialForm.name : SpecialForm → String
  | classVar => "ClassVar" | final => "Final" | optional => "Optional" | union => "Union"
  | literal => "Literal" | annotated => "Annotated" | noReturn => "NoReturn"
  | never => "Never" | required => "Required" | notRequired => "NotRequired"
  | selfType => "Self" | unpack => "Unpack" | concatenate => "Concatenate"
  | typeGuard => "TypeGuard" | typeAlias => "TypeAlias" | literalString => "LiteralString"

/-- A named generic type that stands for a class. -/
structure Alias where
  name : String
  origin : Builtin
deriving DecidableEq, Repr

def Alias.all : List Alias := [
  ⟨"AbstractSet", .abstractSet⟩, ⟨"Callable", .callable⟩, ⟨"Collection", .collection⟩,
  ⟨"Container", .container⟩, ⟨"Counter", .counter⟩, ⟨"DefaultDict", .defaultdict⟩,
  ⟨"Deque", .deque⟩, ⟨"Dict", .dict⟩, ⟨"FrozenSet", .frozenset⟩, ⟨"Generator", .generator⟩,
  ⟨"Hashable", .hashable⟩, ⟨"ItemsView", .itemsView⟩, ⟨"Iterable", .iterable⟩,
  ⟨"Iterator", .iterator⟩, ⟨"KeysView", .keysView⟩, ⟨"List", .list⟩, ⟨"Mapping", .mapping⟩,
  ⟨"MappingView", .mappingView⟩, ⟨"MutableMapping", .mutableMapping⟩,
  ⟨"MutableSequence", .mutableSequence⟩, ⟨"MutableSet", .mutableSet⟩,
  ⟨"OrderedDict", .orderedDict⟩, ⟨"Reversible", .reversible⟩, ⟨"Sequence", .sequence⟩,
  ⟨"Set", .set⟩, ⟨"Sized", .sized⟩, ⟨"Tuple", .tuple⟩, ⟨"Type", .type⟩,
  ⟨"ValuesView", .valuesView⟩]

def SpecialForm.all : List SpecialForm := [
  .classVar, .final, .optional, .union, .literal, .annotated, .noReturn, .never, .required,
  .notRequired, .selfType, .unpack, .concatenate, .typeGuard, .typeAlias, .literalString]

/-- What type arguments are applied to. -/
inductive Head where
  | alias (a : Alias)
  | builtin (b : Builtin)
  /-- A declared generic class. -/
  | declared (name : String)
  /-- A form, which has no class as origin. -/
  | form (f : SpecialForm)
deriving DecidableEq, Repr

/-- The two spellings of unions; they differ in print only. -/
inductive UnionStyle where
  | named
  | bar
deriving DecidableEq, Repr

inductive TypeExpr where
  | cls (c : ClassRef)
  | special (f : SpecialForm)
  | generic (a : Alias)
  | applied (head : Head) (args : List TypeExpr)
  | union (style : UnionStyle) (args : List TypeExpr)
  | literal (values : List Atom)
  | annotated (inner : TypeExpr)
  /-- An init-only type.  Two of them are the same only if they were written at one place. -/
  | initOnly (mark : Nat) (inner : TypeExpr)
  /-- A text inside a generic type that is still to be read, most often a name. -/
  | forward (text : String)
  | ellipsis
  /-- A value in place of a type; a text is read as a type when hints are asked for. -/
  | value (v : Value)

namespace TypeExpr

instance : Inhabited TypeExpr := ⟨.cls (.builtin .object)⟩

abbrev builtin (b : Builtin) : TypeExpr := .cls (.builtin b)

abbrev noneType : TypeExpr := .builtin .noneType

abbrev any : TypeExpr := .builtin .any

def isNoneType : TypeExpr → Bool
  | .cls (.builtin .noneType) => true
  | _ => false

def isClassVariable : TypeExpr → Bool
  | .special .classVar => true
  | .applied (.form .classVar) _ => true
  | _ => false

def isInitOnly : TypeExpr → Bool
  | .initOnly .. => true
  | _ => false

end TypeExpr

end Memberwise
