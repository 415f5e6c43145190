import Memberwise.World.Attribute

/-! # Creating objects

An object is made first, by a function of its class or of a predefined one, and then initialized.
The initializer may be declared, generated from the fields of a record, or predefined.  A model is
created from given values and defaults without checks.

Left out are the arguments that predefined initializers can do with: an object is created from
none, or a declared initializer forwards some, which are then no match.  The functions that make
objects and the initializers do what their declarations say and nothing else.
-/

namespace Memberwise

structure Arguments where
  positional : List Slot
  named : List (String × Slot)

/-- Arguments as the parameters of a call receive them. -/
structure Call where
  given : List (String × Slot)
  rest : List Slot
  restNamed : List (String × Slot)

namespace Arguments

def none : Arguments := ⟨[], []⟩

def isEmpty (args : Arguments) : Bool := args.positional.isEmpty && args.named.isEmpty

/-- Distributes arguments over parameters, unless some are surplus or given twice, or one that is
required is missing. -/
def distribute (args : Arguments) (params : List Parameter) : Except Fault Call :=
  let ordinary := (params.filter (·.kind == .ordinary)).map (·.name)
  let byPosition := ordinary.zip args.positional
  let rest := args.positional.drop ordinary.length
  let isSingle (name : String) := params.any fun p => p.isSingle && p.name == name
  let (byName, restNamed) := args.named.partition fun entry => isSingle entry.1
  let given := byPosition ++ byName
  let isGiven (name : String) := given.any (·.1 == name)
  if !rest.isEmpty && !params.any (·.kind == .restByPosition) then .error .typeMismatch
  else if !restNamed.isEmpty && !params.any (·.kind == .restByName) then .error .typeMismatch
  else if byName.any fun entry => byPosition.any (·.1 == entry.1) then .error .typeMismatch
  else if params.any fun p => p.isRequired && !isGiven p.name then .error .missingArgument
  else .ok ⟨given, rest, restNamed⟩

end Arguments

/-- A field as a parameter of the generated initializer. -/
def Field.parameter (f : Field) : Parameter :=
  { name := f.name
    type := none
    default := if f.default.isPresent then some .none else none
    kind := if f.keywordOnly.getD false then .keywordOnly else .ordinary }

/-- Whether a predefined class makes objects that are more than places for attributes.  Identifiers
are made by their initializer. -/
def Builtin.makesOthers (b : Builtin) : Bool :=
  b == .type || (Schema.scalarOf? b).isSome && b != .uuid

namespace Classes

/-- Whether a class in a lineage has a function of its own that makes objects. -/
def hasMaker (classes : Classes) (c : ClassRef) : Bool :=
  (classes.declsOf c).any (·.maker?.isSome)

/-- What the making of a new object is given.  A model is made before it takes values by name. -/
def makingArguments (classes : Classes) (c : ClassRef) (args : Arguments) : Arguments :=
  if classes.isModel c && args.positional.isEmpty then .none else args

/-- What the initializer of a new object is given.  Where only the making of objects is a class's own,
it takes all arguments. -/
def initialArguments (classes : Classes) (c : ClassRef) (args : Arguments) : Arguments :=
  match classes.initSource c with
  | .builtin .object => if classes.hasMaker c then .none else args
  | _ => args

end Classes

namespace World

def internCopy (w : World) (v : Value) : World × Slot := w.intern v.detach

/-- The value of a parameter of a declared initializer. -/
def parameterValue (w : World) (owner : String) (call : Call) (p : Parameter) : World × Slot :=
  match p.kind with
  | .restByPosition => w.alloc (.seq .tuple call.rest)
  | .restByName => w.alloc (.dict (call.restNamed.map fun (name, v) => (.atom (.str name), v)))
  | _ => (w, (call.given.lookup p.name).getD (w.constant (.parameter owner p.name)))

/-- The values of the parameters of a declared initializer. -/
def parameterValues (w : World) (owner : String) (params : List Parameter) (call : Call) :
    World × List (String × Slot) :=
  params.foldl (fun (w, bound) p =>
    let (w, v) := w.parameterValue owner call p
    (w, bound ++ [(p.name, v)])) (w, [])

/-- The default that a class keeps for a field that one of its record classes declares. -/
def fieldDefault (w : World) (owner name : String) : Slot :=
  let declares (decl : ClassDecl) := decl.isRecord && decl.fields.any (·.name == name)
  match (w.classes.declsOf (.declared owner)).find? declares with
  | none => .none
  | some decl =>
    let keepers := (w.classes.declsOf (.declared decl.name)).map (·.name)
    (keepers.findSome? fun keeper => w.constants.lookup (.attribute keeper name)).getD .none

/-- What a generated initializer stores for a field, if anything. -/
def initialFieldValue (w : World) (owner : String) (usesSlots : Bool) (call : Call) (f : Field) :
    World × Option Slot :=
  if f.type.isInitOnly then (w, none)
  else
    match (if f.inInit then call.given.lookup f.name else none), f.default with
    | some v, _ => (w, some v)
    | none, .factory v =>
      let (w, slot) := w.internCopy v
      (w, some slot)
    | none, .value _ =>
      (w, if f.inInit || usesSlots then some (w.fieldDefault owner f.name) else none)
    | none, .missing => (w, none)

/-- Runs a generated initializer. -/
def initializeRecord (w : World) (p : Place) (owner : String) (options : RecordOptions)
    (args : Arguments) : Except Fault World := do
  let fields := w.classes.recordArguments (.declared owner)
  match args.distribute ((fields.filter (·.inInit)).map Field.parameter) with
  | .error fault => .error fault
  | .ok call =>
    fields.foldlM (fun w f =>
      match w.initialFieldValue owner options.usesSlots call f with
      | (w, none) => .ok w
      | (w, some v) =>
        if options.frozen then w.setDirectly (.ref p) f.name v
        else w.setAttribute (.ref p) f.name v) w

/-- The values of names, all of which have to be bound. -/
def valuesOf (bound : List (String × Slot)) (names : List String) : Except Fault (List Slot) :=
  names.mapM fun name =>
    match bound.lookup name with
    | some v => .ok v
    | none => .error .unresolvedName

/-- Stores the values of names in attributes, in order. -/
def storeAll (store : World → String → Slot → Except Fault World)
    (bound : List (String × Slot)) (w : World) (pairs : List (String × String)) :
    Except Fault World :=
  pairs.foldlM (fun w (target, name) =>
    match bound.lookup name with
    | some v => store w target v
    | none => .error .unresolvedName) w

/-- Whether the initializer of a predefined class is given no argument that it can do with.
Identifiers take absent values for arguments that are not given. -/
def lacksArguments (b : Builtin) (args : Arguments) : Bool :=
  match b with
  | .uuid =>
    args.named.isEmpty && args.positional.length ≤ 6 && (args.positional.take 5).all Slot.isNone
  | b => args.isEmpty && b.needsArguments

/-- Runs the initializer of a predefined class, which leaves an object as it is. -/
def initializeBuiltin (w : World) (b : Builtin) (args : Arguments) : Except Fault World :=
  if lacksArguments b args then .error .missingArgument
  else if !args.isEmpty then .error .typeMismatch
  else .ok w

/-- Runs the nearest initializer of a lineage on an object. -/
def runInitializer (w : World) (p : Place) :
    (lineage : List ClassRef) → Arguments → Except Fault World
  | [], args => w.initializeBuiltin .object args
  | .builtin b :: rest, args =>
    if b.initializes then w.initializeBuiltin b args else w.runInitializer p rest args
  | .declared name :: rest, args =>
    match w.classes.declOf? (.declared name) with
    | none => w.runInitializer p rest args
    | some decl =>
      match decl.init, decl.kind with
      | some init, _ =>
        match args.distribute init.parameters with
        | .error fault => .error fault
        | .ok call => do
          let isParameter (name : String) := init.parameters.any (·.name == name)
          let (w, bound) := w.parameterValues name init.parameters call
          let w ←
            match init.forwards with
            | none => .ok w
            | some names =>
              if isParameter "super" then .error .typeMismatch
              else do w.runInitializer p rest ⟨← valuesOf bound names, []⟩
          let w ← storeAll (fun w name v => w.setAttribute (.ref p) name v) bound w init.stores
          if !init.directStores.isEmpty && isParameter "object" then .error .missingAttribute
          else storeAll (fun w name v => w.setDirectly (.ref p) name v) bound w init.directStores
      | none, .record options =>
        if options.generatesInit then w.initializeRecord p name options args
        else w.runInitializer p rest args
      | none, .bag .. =>
        if args.isEmpty then
          let (w, items) := w.alloc (.seq .list [])
          w.setAttribute (.ref p) "items" items
        else .error .typeMismatch
      | none, _ => w.runInitializer p rest args

/-- What a predefined class is created as without arguments, if it can be. -/
def createBuiltin (w : World) (b : Builtin) : Except Fault (World × Slot) :=
  match b with
  | .noneType => .ok (w, .none)
  | .bool => .ok (w, .atom (.bool false))
  | .int => .ok (w, .atom (.int 0))
  | .float => .ok (w, .atom (.float (.zero false)))
  | .complex => .ok (w, .atom (.complex (.zero false) (.zero false)))
  | .str => .ok (w, .atom (.str ""))
  | .bytes => .ok (w, .atom (.bytes []))
  | .decimal => .ok (w, .atom (.decimal .zero))
  | .time => .ok (w, .atom (.time ⟨.midnight, none⟩))
  | .timedelta => .ok (w, .atom (.timedelta .zero))
  | .bytearray => .ok (w.alloc (.seq .bytearray []))
  | .list => .ok (w.alloc (.seq .list []))
  | .tuple => .ok (w.alloc (.seq .tuple []))
  | .set => .ok (w.alloc (.seq .set []))
  | .frozenset => .ok (w.alloc (.seq .frozenset []))
  | .deque => .ok (w.alloc (.seq .deque []))
  | .dict | .counter | .defaultdict | .orderedDict => .ok (w.alloc (.dict []))
  | .object | .baseModel | .generic => .ok (w.alloc (.object b.name none []))
  | .date | .datetime | .uuid | .enum | .type | .mappingView | .keysView | .valuesView
  | .itemsView => .error .missingArgument
  | _ => .error .typeMismatch

/-- The scalar that the new instances of a class wrap if a predefined class makes them. -/
def wrappedZero (w : World) (b : Builtin) : Except Fault (Option Atom) := do
  match ← w.createBuiltin b with
  | (_, .atom a) => .ok (some a)
  | _ => .ok none

/-- Makes an object of a lineage: what it wraps, if anything. -/
def makeObject (w : World) :
    (lineage : List ClassRef) → Arguments → Except Fault (Option Atom)
  | [], _ => .ok none
  | .builtin b :: rest, args => if b.makesOthers then w.wrappedZero b else w.makeObject rest args
  | .declared name :: rest, args =>
    match (w.classes.declOf? (.declared name)).bind ClassDecl.maker? with
    | none => w.makeObject rest args
    | some maker =>
      match args.distribute maker.parameters, maker.wraps with
      | .error fault, _ => .error fault
      | .ok _, some a => .ok (some a)
      | .ok _, none => w.makeObject rest .none

/-- The default that a model keeps for a field, copied. -/
def modelDefault (w : World) (c : ClassRef) (f : Field) : World × Option Slot :=
  match f.default with
  | .missing => (w, none)
  | .factory v =>
    let (w, slot) := w.internCopy v
    (w, some slot)
  | .value v =>
    let kept := (w.classes.declsOf c).findSome? fun decl =>
      w.constants.lookup (.attribute decl.name f.name)
    let (w, slot) := w.internCopy ((kept.map w.load).getD v)
    (w, some slot)

/-- Creates a model from values under the names or aliases of fields.  Values under other
names are kept where the model allows them. -/
def construct (w : World) (c : ClassRef) (given : List (String × Slot)) : World × Slot :=
  let (w, left, attributes) :=
    (w.classes.modelFields c).foldl (fun (w, left, attributes) f =>
      let key := (f.otherName.toList ++ [f.name]).find? fun key => left.any (·.1 == key)
      match key.bind fun key => (left.lookup key).map fun v => (key, v) with
      | some (key, v) => (w, left.filter (·.1 != key), attributes ++ [(f.name, v)])
      | none =>
        match w.modelDefault c f with
        | (w, some v) => (w, left, attributes ++ [(f.name, v)])
        | (w, none) => (w, left, attributes)) (w, given, ([] : List (String × Slot)))
  let extra :=
    if (w.classes.modelOption? c (·.extra)).getD .ignore == .allow then
      left.filter fun entry => !isHiddenName entry.1
    else []
  let (w, hidden) :=
    (w.classes.hiddenAttributes c).foldl (fun (w, known) (name, v) =>
      match left.lookup name with
      | some v => (w, putAttribute known name v)
      | none =>
        let (w, slot) := w.internCopy v
        (w, putAttribute known name slot)) (w, ([] : List (String × Slot)))
  w.alloc (.object c.name none (attributes ++ extra ++ hidden))

/-- An object of a declared class that wraps a given scalar, if any. -/
def createDeclared (w : World) (name : String) (args : Arguments) (core : Option Atom) :
    Except Fault (World × Slot) :=
  let c := ClassRef.declared name
  if w.classes.isAbstract c then .error .typeMismatch
  else if w.classes.isModel c then
    if args.positional.isEmpty then .ok (w.construct c args.named) else .error .typeMismatch
  else
    match w.classes.kindOf? name with
    | some (.bag ..) =>
      if args.isEmpty then .ok (w.alloc (.seq (.bag name) [])) else .error .typeMismatch
    | _ =>
      let initial := w.classes.initialArguments c args
      let (w, slot) := w.alloc (.object name core [])
      match slot with
      | .ref p => do .ok (← w.runInitializer p (w.classes.lineageOf c) initial, slot)
      | .atom _ => .ok (w, slot)

def createWith (w : World) (c : ClassRef) (args : Arguments) : Except Fault (World × Slot) :=
  match c with
  | .builtin b => if args.isEmpty then w.createBuiltin b else .error .typeMismatch
  | .declared name =>
    if w.classes.isEnumeration c then
      .error (if args.isEmpty then .missingArgument else .typeMismatch)
    else do
      let making := w.classes.makingArguments c args
      w.createDeclared name args (← w.makeObject (w.classes.lineageOf c) making)

def create (w : World) (c : ClassRef) (named : List (String × Slot)) :
    Except Fault (World × Slot) :=
  w.createWith c ⟨[], named⟩

end World

end Memberwise
