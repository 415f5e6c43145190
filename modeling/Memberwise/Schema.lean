import Memberwise.Class.Fields
import Memberwise.TypeExpr.Shape

/-! # Schemas

A type expression read as a description of the values that it admits.  Not every type has a
schema: plain classes and collections of a program's own are not described by their type.

Schemas stand for those of pydantic, on which the program relies and which is no part of it.  This
module and those under `Schema` follow what it documents: the conversion table of its lax mode for
scalars and collections (`Schema/Scalar`, `Schema/Reading`), the smart mode of unions, records and
models that are read from mappings by names and other names, and what is written in JSON mode, with
its limits on values inside one another (`Schema/Plain`).  Left out are

* constraints and validators, in annotations or in the bodies of classes;
* the spending of iterators: a schema reads all elements that an iterator still holds and leaves it as
  it is, and what it makes of an iterable has its elements read at once, not when they are asked for;
* texts with lone surrogates, and the limit on the depth of calls.

Of all this the theory uses only a few properties.  What is read or written depends on the places of
objects in no way but by comparing them (`read?_rename`, `plain_rename`), and is the value itself or
new (`read?_fresh`, `isPlain_of_plain`).  Types that are equal have schemas or have none together
(`isSome_describe?_of_same`), and so have spellings of one type (`readsAlike_of_respelled`).  Schemas
that are kept are never lost (`schema?_of_grows`).  That what is read for a class is an instance of
it, and so present, is assumed by name where it is needed (`ReadsInstance`, from which
`read?_isNone`).
-/

namespace Memberwise

/-- The scalar types that schemas know how to read. -/
inductive ScalarType where
  | bool | int | float | complex | str | bytes | decimal | date | datetime | time | timedelta
  | uuid
deriving DecidableEq, Repr

/-- A description of values. -/
inductive Schema where
  | any
  | absent
  | scalar (type : ScalarType)
  | enumeration (name : String)
  | literal (values : List Atom)
  | nullable (inner : Schema)
  /-- The best of several descriptions. -/
  | union (members : List Schema)
  | list (item : Schema)
  | set (item : Schema)
  | frozenset (item : Schema)
  | deque (item : Schema)
  | tupleOf (item : Schema)
  | tuple (items : List Schema)
  | dict (key value : Schema)
  | sequence (item : Schema)
  | iterable (item : Schema)
  /-- The objects of a record class, or mappings with its fields. -/
  | record (name : String)
  /-- The objects of a model, or mappings with its fields. -/
  | model (name : String)
  | instanceOf (c : ClassRef)

namespace Schema

instance : Inhabited Schema := ⟨.any⟩

def scalarOf? : Builtin → Option ScalarType
  | .bool => some .bool | .int => some .int | .float => some .float
  | .complex => some .complex | .str => some .str | .bytes => some .bytes
  | .decimal => some .decimal | .date => some .date | .datetime => some .datetime
  | .time => some .time | .timedelta => some .timedelta | .uuid => some .uuid
  | _ => none

/-- The schema of a collection class with schemas for its arguments; a missing argument admits
anything. -/
def ofCollection? (origin : Builtin) (args : List Schema) : Option Schema :=
  match origin, args with
  | .list, [] | .mutableSequence, [] => some (.list .any)
  | .list, [a] | .mutableSequence, [a] => some (.list a)
  | .set, [] | .mutableSet, [] => some (.set .any)
  | .set, [a] | .mutableSet, [a] => some (.set a)
  | .frozenset, [] | .abstractSet, [] => some (.frozenset .any)
  | .frozenset, [a] | .abstractSet, [a] => some (.frozenset a)
  | .deque, [] => some (.deque .any)
  | .deque, [a] => some (.deque a)
  | .sequence, [] => some (.sequence .any)
  | .sequence, [a] => some (.sequence a)
  | .iterable, [] | .generator, [] => some (.iterable .any)
  | .iterable, [a] | .generator, [a, _, _] => some (.iterable a)
  | .dict, [] | .mapping, [] | .mutableMapping, [] => some (.dict .any .any)
  | .dict, [k, v] | .mapping, [k, v] | .mutableMapping, [k, v] => some (.dict k v)
  | _, _ => none

def ofBuiltin? (b : Builtin) : Option Schema :=
  match b with
  | .object | .any => some .any
  | .noneType => some .absent
  | .tuple => some (.tupleOf .any)
  | .type => some (.instanceOf (.builtin .type))
  | .enum => some (.instanceOf (.builtin .enum))
  | .baseModel => some (.instanceOf (.builtin .baseModel))
  | _ => ((scalarOf? b).map .scalar).or (ofCollection? b [])

/-- The schema of a declared class, its fields left to a later look. -/
def ofDeclared? (classes : Classes) (name : String) : Option Schema :=
  let c := ClassRef.declared name
  if classes.isEnumeration c then
    if (classes.membersOf name).isEmpty then some (.instanceOf c) else some (.enumeration name)
  else if classes.isModel c then some (.model name)
  else if classes.isRecord c then some (.record name)
  else none

def ofClass? (classes : Classes) : ClassRef → Option Schema
  | .builtin b => ofBuiltin? b
  | .declared name => ofDeclared? classes name

/-- The schema of a name: only predefined scalar and container names are known outside of
declarations. -/
def ofName? (name : String) : Option Schema :=
  (Builtin.ofGlobalName? name).bind ofBuiltin?

/-- The schema of a union of schemas, some of which may be left out as the absent value. -/
def ofMembers (hasAbsent : Bool) (members : List Schema) : Schema :=
  let inner :=
    match members with
    | [s] => s
    | members => .union members
  if hasAbsent then .nullable inner else inner

mutual

/-- The schema of a type, if it has one. -/
def ofType? (classes : Classes) : TypeExpr → Option Schema
  | .cls c => ofClass? classes c
  | .special _ => none
  | .generic a => ofBuiltin? a.origin
  | .applied (.alias ⟨_, .tuple⟩) args | .applied (.builtin .tuple) args =>
    match args with
    | [t, .ellipsis] => (ofType? classes t).map .tupleOf
    | args => (ofTypes? classes args).map .tuple
  | .applied (.alias a) args => (ofTypes? classes args).bind (ofCollection? a.origin)
  | .applied (.builtin b) args => (ofTypes? classes args).bind (ofCollection? b)
  | .applied _ _ => none
  | .union _ members =>
    (ofMembers? classes members).map (ofMembers (members.any TypeExpr.isNoneType))
  | .literal values => some (.literal values)
  | .annotated t => ofType? classes t
  | .initOnly .. => none
  | .forward name => ofName? name
  | .ellipsis => none
  | .value v =>
    match v.core? with
    | some (.str name) => ofName? name
    | _ => none

def ofTypes? (classes : Classes) : List TypeExpr → Option (List Schema)
  | [] => some []
  | t :: rest => do
    let schema ← ofType? classes t
    let schemas ← ofTypes? classes rest
    some (schema :: schemas)

/-- The schemas of the members of a union other than the absent value. -/
def ofMembers? (classes : Classes) : List TypeExpr → Option (List Schema)
  | [] => some []
  | t :: rest =>
    if t.isNoneType then ofMembers? classes rest
    else do
      let schema ← ofType? classes t
      let schemas ← ofMembers? classes rest
      some (schema :: schemas)

end

mutual

/-- The declared classes that a schema refers to. -/
def references : Schema → List String
  | .record name | .model name => [name]
  | .nullable s | .list s | .set s | .frozenset s | .deque s | .tupleOf s | .sequence s
  | .iterable s => references s
  | .dict k v => references k ++ references v
  | .union members | .tuple members => referencesAll members
  | _ => []

def referencesAll : List Schema → List String
  | [] => []
  | s :: rest => references s ++ referencesAll rest

end

end Schema

end Memberwise
