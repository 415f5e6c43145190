import Memberwise.Member
import Memberwise.TypeExpr.Resolve

/-! # Discovery of members

The properties and fields of a class, gathered along its lineage.  A public name is a property
if the nearest class that binds it binds it to one.  Fields are what classes annotate, and the
annotated parameters that the initializer stores under their own name.
-/

namespace Memberwise

structure Property where
  owner : String
  getter : Option Getter
  setter : Option Setter

/-- Whether hints can be asked of the accessor that tells the type of a property: its getter, or else
its setter. -/
def Property.statesHints (p : Property) : Bool :=
  match p.getter, p.setter with
  | some getter, _ => getter.isFunction
  | none, some setter => setter.isFunction
  | none, none => false

namespace Classes

/-- What the namespace of a class of a lineage binds, in order; a property comes with its
declaration, any other binding without. -/
def namespaceOf (classes : Classes) : ClassRef → List (String × Option Property)
  | .builtin b =>
    (b.propertyNames.map fun name => (name, some ⟨b.name, some ⟨none, .attribute name, true⟩, none⟩)) ++
      b.attributeNames.map fun name => (name, none)
  | .declared name =>
    match classes.find? name with
    | none => []
    | some c => c.decl.bindings.map fun (entry, binding) =>
      match binding with
      | .property getter setter => (entry, some ⟨name, getter, setter⟩)
      | _ => (entry, none)

/-- Enters the bindings of one class into the properties of its ancestors: a property replaces
what it overrides in place, any other binding removes it. -/
def enterBindings (known : List (String × Property))
    (bindings : List (String × Option Property)) : List (String × Property) :=
  bindings.foldl (fun known (name, property) =>
    match property with
    | some p =>
      if isHiddenName name then known.filter (·.1 != name)
      else if known.any (·.1 == name) then
        known.map fun entry => if entry.1 == name then (name, p) else entry
      else known ++ [(name, p)]
    | none => known.filter (·.1 != name)) known

/-- The public properties of a class by name. -/
def publicProperties (classes : Classes) (c : ClassRef) : List (String × Property) :=
  (classes.lineageOf c).reverse.foldl (fun known parent =>
    enterBindings known (classes.namespaceOf parent)) []

/-- A hint, or the fault of a text in it.  Only a name that stands for nothing is told as a fault of
configuration. -/
def hintOf (classes : Classes) (owner : String) (t : TypeExpr) : Except Fault TypeExpr :=
  match t.resolve classes with
  | .ok t => .ok t
  | .error (.unresolved name) => .error (.configuration (.unresolvedName owner name))
  | .error (.raised kind) => .error (.raised kind)

def hintOf? (classes : Classes) (owner : String) :
    Option TypeExpr → Except Fault (Option TypeExpr)
  | none => .ok none
  | some t => (classes.hintOf owner t).map some

/-- The type of a property: what its getter returns, or else what its setter takes. -/
def propertyType (classes : Classes) (name : String) (p : Property) : Except Fault TypeExpr :=
  if !p.statesHints then .error .typeMismatch
  else
    match p.getter, p.setter with
    | some getter, _ => do
      .ok ((← classes.hintOf? (p.owner ++ "._get_" ++ name) getter.type).getD .any)
    | none, some setter => do
      let owner := p.owner ++ "._set_" ++ name
      let type ← classes.hintOf? owner setter.type
      let _ ← classes.hintOf? owner setter.returns
      .ok (type.getD .any)
    | none, none => .ok .any

/-- A member as it is described, unless its type has no normal spelling. -/
def described : Option Member → Except Fault Member
  | some m => .ok m
  | none => .error .typeMismatch

def properties (classes : Classes) (c : ClassRef) : Except Fault (List Member) :=
  (classes.publicProperties c).mapM fun (name, p) => do
    let type ← classes.propertyType name p
    described (Member.describe? classes name type p.getter.isSome p.setter.isSome)

/-- Enters a hint under a name, in the place of an earlier one. -/
def putHint (known : List (String × TypeExpr)) (name : String) (t : TypeExpr) :
    List (String × TypeExpr) :=
  if known.any (·.1 == name) then
    known.map fun entry => if entry.1 == name then (name, t) else entry
  else known ++ [(name, t)]

/-- The hints of a class: the annotations of its lineage, the most distant ancestor first. -/
def classHints (classes : Classes) (c : ClassRef) : Except Fault (List (String × TypeExpr)) :=
  ((classes.declsOf c).reverse.flatMap ClassDecl.annotations).foldlM (fun known (name, t) => do
    .ok (putHint known name (← classes.hintOf c.name t))) []

/-- What initializes the instances of a class. -/
inductive InitSource where
  /-- An initializer that a class declares. -/
  | declared (owner : String) (init : Initializer)
  /-- The generated initializer of a record class. -/
  | generated (owner : String)
  /-- The initializer of a collection class, which takes items if there are any. -/
  | bag (owner : String)
  | builtin (b : Builtin)

/-- What initializes the instances of a lineage: the nearest class with an initializer. -/
def initSourceIn (classes : Classes) : (lineage : List ClassRef) → InitSource
  | [] => .builtin .object
  | .builtin b :: rest => if b.initializes then .builtin b else initSourceIn classes rest
  | .declared name :: rest =>
    match classes.find? name with
    | none => initSourceIn classes rest
    | some c =>
      match c.decl.init, c.decl.kind with
      | some init, _ => .declared name init
      | none, .record options =>
        if options.generatesInit then .generated name else initSourceIn classes rest
      | none, .bag .. => .bag name
      | none, _ => initSourceIn classes rest

def initSource (classes : Classes) (c : ClassRef) : InitSource :=
  classes.initSourceIn (classes.lineageOf c)

/-- The names that the code of an initializer uses: the attributes that it stores or mentions,
and what it calls, except where a parameter takes its name. -/
def usedNames (init : Initializer) : List String :=
  let isParameter (name : String) := init.parameters.any (·.name == name)
  let global (name : String) := if isParameter name then [] else [name]
  (if init.forwards.isSome then global "super" ++ ["__init__"] else []) ++
    init.stores.map (·.1) ++
    (if init.directStores.isEmpty then [] else global "object" ++ ["__setattr__"]) ++
    init.mentions

/-- The names that some class of a lineage fixes a place for. -/
def slotsOf (classes : Classes) (c : ClassRef) : List String :=
  (classes.lineageOf c).flatMap fun
    | .builtin b => b.slotNames
    | parent => ((classes.declOf? parent).bind ClassDecl.slotNames).getD []

/-- Whether the nearest record class of a lineage refuses changes. -/
def isFrozenRecord (classes : Classes) (c : ClassRef) : Bool :=
  ((classes.declsOf c).findSome? fun decl =>
    match decl.kind with
    | .record options => some options.frozen
    | _ => none).getD false

/-- The arguments of a generated initializer in order, those given by name last. -/
def generatedArguments (classes : Classes) (owner : String) : List Field :=
  let arguments := (classes.recordArguments (.declared owner)).filter (·.inInit)
  let byName (f : Field) := f.keywordOnly == some true
  arguments.filter (!byName ·) ++ arguments.filter byName

/-- Whether a generated initializer stores an argument under its own name, as far as the names in
its code and the places of the instances tell.  Init-only variables are handed on, and the code for
a frozen class names its fields by text. -/
def storesArgument (classes : Classes) (c : ClassRef) (owner : String) (f : Field) : Bool :=
  !classes.isFrozenRecord (.declared owner) && !f.type.isInitOnly ||
    (classes.slotsOf c).contains f.name

/-- The arguments of a generated initializer that count as fields.  All of them are annotated, and
their annotations have been read as hints of the class before, so none is missing. -/
def generatedParameters (classes : Classes) (c : ClassRef) (owner : String) :
    List (String × TypeExpr) :=
  (classes.generatedArguments owner).filterMap fun f =>
    if classes.storesArgument c owner f then
      (f.type.resolve classes).toOption.map fun t => (f.name, t)
    else none

/-- The parameters of an initializer that count as fields: annotated, and stored under their
own name as far as the names in the code tell. -/
def storedParameters (classes : Classes) (c : ClassRef) :
    Except Fault (List (String × TypeExpr)) :=
  match classes.initSource c with
  | .declared owner init => do
    let hints ← init.parameters.mapM fun p => do
      .ok (p, ← classes.hintOf? (owner ++ ".__init__") p.type)
    let stored := usedNames init ++ classes.slotsOf c
    .ok (hints.filterMap fun (p, hint) =>
      if p.isSingle && stored.contains p.name then hint.map fun t => (p.name, t) else none)
  | .generated owner => .ok (classes.generatedParameters c owner)
  | _ => .ok []

/-- The annotations of a class that may be fields: those of its lineage other than class
variables, and then the stored parameters that are not among them. -/
def fieldAnnotations (classes : Classes) (c : ClassRef) :
    Except Fault (List (String × TypeExpr)) := do
  let hints ← classes.classHints c
  let annotations := hints.filter fun (_, t) =>
    match t with
    | .applied (.form .classVar) _ => false
    | _ => true
  let parameters ← classes.storedParameters c
  .ok (parameters.foldl (fun known (name, t) =>
    if known.any (·.1 == name) then known else known ++ [(name, t)]) annotations)

/-- Whether a name may be a field beside given properties. -/
def isFieldName (properties : List (String × Property)) (name : String) : Bool :=
  !isHiddenName name && !properties.any (·.1 == name)

/-- The fields of a class: their names and stated types, and whether they can be written. -/
def statedFields (classes : Classes) (c : ClassRef) : Except Fault (List (String × TypeExpr × Bool)) :=
  let properties := classes.publicProperties c
  if classes.isModel c then
    let frozen := classes.isFrozenModel c
    .ok <| (classes.modelFields c).filterMap fun f =>
      if isFieldName properties f.name then
        some (f.name, f.type.resolveField classes, !(frozen || f.frozen))
      else none
  else do
    let writable := !classes.isFrozenRecord c
    .ok <| (← classes.fieldAnnotations c).filterMap fun (name, t) =>
      if isFieldName properties name then some (name, t, writable) else none

def fields (classes : Classes) (c : ClassRef) : Except Fault (List Member) := do
  (← classes.statedFields c).mapM fun (name, t, writable) =>
    described (Member.describe? classes name t true writable)

/-- The names in increasing order, each once. -/
def sortNames (names : List String) : List String :=
  (names.mergeSort fun a b => !(b < a)).eraseDups

/-- The arguments without which a class cannot be created, sorted by name. -/
def requiredArguments (classes : Classes) (c : ClassRef) : List String :=
  sortNames <|
    if classes.isModel c then
      (classes.modelFields c).filterMap fun f =>
        if f.default.isPresent then none else some (f.otherName.getD f.name)
    else
      match classes.initSource c with
      | .declared _ init => init.parameters.filterMap fun p =>
        if p.isRequired then some p.name else none
      | .generated owner => (classes.recordArguments (.declared owner)).filterMap fun f =>
        if f.inInit && !f.default.isPresent then some f.name else none
      | .bag _ => []
      | .builtin b => b.requiredArguments

end Classes

end Memberwise
