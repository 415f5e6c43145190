import Memberwise.Class.Lineage

/-! # Declared classes in context

Classes in the order of their declaration, each with its lineage.  On top of it stand the
look-up of names along the lineage and the questions that mapping asks of a class: what it
descends from, whether its instances can be iterated, and which adding methods they have.
-/

namespace Memberwise

/-- A declared class with its lineage, itself first. -/
structure Class where
  decl : ClassDecl
  lineage : List ClassRef

abbrev Classes := List Class

/-- The methods by which collections are added to. -/
inductive Adding where
  | append | add
deriving DecidableEq

namespace ClassDecl

/-- The bases of a class, those that go without saying included. -/
def effectiveBases (c : ClassDecl) : List ClassRef :=
  match c.kind with
  | .enumeration mixin _ => (mixin.toList ++ [Builtin.enum]).map ClassRef.builtin
  | .bag .. => [.builtin .generic]
  | .model _ => if c.bases.isEmpty then [.builtin .baseModel] else c.bases
  | _ => if c.bases.isEmpty then [.builtin .object] else c.bases

/-- The names that instances have a place for, if the class fixes them: those of the fields of
a record class that asks for it, as far as its own body has them. -/
def slotNames (c : ClassDecl) : Option (List String) :=
  match c.kind with
  | .record options =>
    if options.usesSlots then
      let fields := c.annotations.filter fun (_, t) => !t.isClassVariable && !t.isInitOnly
      some (fields.map (·.1))
    else c.slots
  | _ => c.slots

/-- What the entries of the body bind, in order; a later entry for a name replaces the earlier
binding at its place. -/
def bodyBindings (c : ClassDecl) : List (String × Binding) :=
  let insert (known : List (String × Binding)) (name : String) (b : Binding) :=
    if known.any (·.1 == name) then
      known.map fun entry => if entry.1 == name then (name, b) else entry
    else known ++ [(name, b)]
  c.body.foldl (fun known entry =>
    match entry with
    | .field f =>
      match f.default with
      | .value v => if c.isModel then known else insert known f.name (.constant v)
      | _ => known
    | .attribute name v => insert known name (.constant v)
    | .method name => insert known name .method
    | .iteration source => insert known "__iter__" (.iteration source)
    | .hidden .. => known
    | .property name getter setter =>
      let known := if getter.isSome then insert known ("_get_" ++ name) .method else known
      let known := if setter.isSome then insert known ("_set_" ++ name) .method else known
      insert known name (.property getter setter)
    | .maker _ => insert known "__new__" .method) []

/-- What the methods that come with the kind of class bind. -/
def kindBindings (c : ClassDecl) : List (String × Binding) :=
  match c.kind with
  | .bag append add _ =>
    [("__iter__", .method)] ++ (if append.isSome then [("append", .method)] else []) ++
      (if add.isSome then [("add", .method)] else [])
  | _ => []

def bindings (c : ClassDecl) : List (String × Binding) :=
  let body := c.bodyBindings ++ (if c.init.isSome then [("__init__", .method)] else []) ++
    c.kindBindings
  match c.slotNames with
  | none => body
  | some names =>
    body.filter (fun entry => !names.contains entry.1) ++ names.map fun name => (name, .slot)

end ClassDecl

namespace Classes

def find? (classes : Classes) (name : String) : Option Class :=
  List.find? (fun c => c.decl.name == name) classes

def declOf? (classes : Classes) : ClassRef → Option ClassDecl
  | .declared name => (classes.find? name).map (·.decl)
  | .builtin _ => none

def kindOf? (classes : Classes) (name : String) : Option ClassKind :=
  (classes.find? name).map fun c => c.decl.kind

/-- A class followed by its ancestors, nearest first. -/
def lineageOf (classes : Classes) : ClassRef → List ClassRef
  | .builtin b => b.ancestors.map .builtin
  | .declared name =>
    match classes.find? name with
    | some c => c.lineage
    | none => [.declared name, .builtin .object]

/-- Adds a class, unless the lineages of its bases contradict each other. -/
def declare (classes : Classes) (decl : ClassDecl) : Option Classes :=
  let bases := decl.effectiveBases
  (Lineage.merge (bases.map classes.lineageOf ++ [bases])).map fun rest =>
    classes ++ [⟨decl, .declared decl.name :: rest⟩]

/-- The declarations along the lineage of a class. -/
def declsOf (classes : Classes) (c : ClassRef) : List ClassDecl :=
  (classes.lineageOf c).filterMap classes.declOf?

/-- What a class itself binds.  What predefined classes bind is told by name only. -/
def bindingsOf (classes : Classes) : ClassRef → List (String × Binding)
  | .builtin b => (b.propertyNames ++ b.attributeNames).map fun name => (name, .method)
  | .declared name => ((classes.find? name).map fun c => c.decl.bindings).getD []

/-- The first class of a lineage that binds a name, and its binding. -/
def ownedBinding? (classes : Classes) (c : ClassRef) (name : String) :
    Option (String × Binding) :=
  (classes.lineageOf c).findSome? fun parent =>
    ((classes.bindingsOf parent).lookup name).map fun binding => (parent.name, binding)

/-- What a name means on a class: the binding of the first class of its lineage that has
one. -/
def binding? (classes : Classes) (c : ClassRef) (name : String) : Option Binding :=
  (classes.ownedBinding? c name).map (·.2)

def descendsFrom (classes : Classes) (c : ClassRef) (b : Builtin) : Bool :=
  (classes.lineageOf c).contains (.builtin b)

def isIterable (classes : Classes) (c : ClassRef) : Bool :=
  match classes.binding? c "__iter__" with
  | some (.constant .none) => false
  | some _ => true
  | none => (classes.lineageOf c).any fun
    | .builtin b => b.isKindOf .iterable
    | .declared _ => false

/-- What the instances of a class yield when they are iterated. -/
inductive Iteration where
  /-- The class has no method for it: what an instance yields depends on what it is. -/
  | inherent
  | nothing
  /-- What an attribute of the instance yields. -/
  | attribute (source : String)
  /-- What the class has is no method. -/
  | impossible

def iterationOf (classes : Classes) (c : ClassRef) : Iteration :=
  match classes.binding? c "__iter__" with
  | none => .inherent
  | some .method => .nothing
  | some (.iteration source) => .attribute source
  | some _ => .impossible

/-- Whether every instance of a class is an instance of another one. -/
def isSubclass (classes : Classes) (c parent : ClassRef) : Bool :=
  (classes.lineageOf c).contains parent ||
    match parent with
    | .builtin .iterable => classes.isIterable c
    | .builtin b => b.isCollectionInterface && (classes.lineageOf c).any fun
      | .builtin a => a.isKindOf b
      | .declared _ => false
    | .declared _ => false

def isInstance (classes : Classes) (v : Value) (c : ClassRef) : Bool :=
  classes.isSubclass v.classOf c

/-- Whether a class has a member of a name: `append` and `add` are those that matter. -/
def hasMember (classes : Classes) (c : ClassRef) (name : String) : Bool :=
  (classes.binding? c name).isSome ||
    (classes.lineageOf c).any fun
      | .builtin b => (name == "append" && b.appends) || (name == "add" && b.adds)
      | .declared _ => false

/-- The method by which instances of a class are added to: that for appending if there is one. -/
def adding? (classes : Classes) (c : ClassRef) : Option Adding :=
  if classes.hasMember c "append" then some .append
  else if classes.hasMember c "add" then some .add
  else none

/-- What a method of a declared collection does. -/
def adder? (classes : Classes) (name : String) (m : Adding) : Option Adder :=
  match classes.kindOf? name, m with
  | some (.bag append _ _), .append => append
  | some (.bag _ add _), .add => add
  | _, _ => none

/-- Whether a class lacks the implementation of some method. -/
def isAbstract (classes : Classes) : ClassRef → Bool
  | .builtin b => b.isAbstract
  | c => (classes.declsOf c).any fun decl => decl.kind matches .bag _ _ true

def isEnumeration (classes : Classes) (c : ClassRef) : Bool := classes.descendsFrom c .enum

def isModel (classes : Classes) (c : ClassRef) : Bool := classes.descendsFrom c .baseModel

/-- The members of an enumeration: names with their values, a name for an earlier value being
another name for the earlier member. -/
def membersOf (classes : Classes) (enumeration : String) : List (String × Value) :=
  match classes.kindOf? enumeration with
  | some (.enumeration _ members) => members.map fun (name, v) => (name, v.detach)
  | _ => []

def mixinOf? (classes : Classes) (enumeration : String) : Option Builtin :=
  match classes.kindOf? enumeration with
  | some (.enumeration mixin _) => mixin
  | _ => none

def memberValue (classes : Classes) (enumeration name : String) : Value :=
  ((classes.membersOf enumeration).lookup name).getD .none

/-- The scalar that a value is, wraps, or has as value of an enumeration with a scalar base. -/
def scalarOf? (classes : Classes) : Value → Option Atom
  | .atom (.member enumeration name) =>
    if (classes.mixinOf? enumeration).isSome then (classes.memberValue enumeration name).core?
    else some (.member enumeration name)
  | v => v.core?

end Classes

end Memberwise
