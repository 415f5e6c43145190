import Memberwise.Mapper.Transfer

/-! # Mappers

A mapper makes mapping functions for pairs of classes from the rules of a registry, which it may
share with other mappers, and keeps those that it made for mapping single objects until a rule
is registered through it.
-/

namespace Memberwise

/-- What a mapper keeps a function under. -/
structure CacheKey where
  source : ClassRef
  target : ClassRef
  creates : Bool
deriving DecidableEq, Repr

/-- A mapper: the number of its registry and the functions that it keeps. -/
structure Mapper where
  registry : Nat
  functions : List (CacheKey × MapFunction)

/-- Registries, and the mappers that use them by name. -/
structure MapperPool where
  registries : List (Registry Converter)
  mappers : List (String × Mapper)

/-- What a mapping of one object gives: the target, or a fault. -/
structure MapOutcome where
  pool : MapperPool
  world : World
  result : Except Fault Slot

namespace MapperPool

def single (name : String) : MapperPool := ⟨[.empty], [(name, ⟨0, []⟩)]⟩

def mapper? (p : MapperPool) (name : String) : Option Mapper := p.mappers.lookup name

def registryOf (p : MapperPool) (m : Mapper) : Registry Converter :=
  (p.registries[m.registry]?).getD .empty

def putMapper (p : MapperPool) (name : String) (m : Mapper) : MapperPool :=
  { p with mappers := (name, m) :: p.mappers.filter (·.1 != name) }

/-- A new mapper, with a registry of its own or that of another mapper. -/
def addMapper (p : MapperPool) (name : String) (share : Option Mapper) : MapperPool :=
  match share with
  | some m => p.putMapper name ⟨m.registry, []⟩
  | none =>
    let grown : MapperPool := { p with registries := p.registries ++ [Registry.empty] }
    grown.putMapper name ⟨p.registries.length, []⟩

/-- Registers a rule in the registry of a mapper, past the mapper. -/
def registerInRegistry (p : MapperPool) (classes : Classes) (m : Mapper)
    (source target : TypeExpr) (f : Converter) : Except Fault MapperPool := do
  let registry ← (p.registryOf m).registerConverter classes source target f
  .ok { p with registries := p.registries.set m.registry registry }

/-- Registers a rule through a mapper, which forgets the functions that it keeps. -/
def register (p : MapperPool) (classes : Classes) (name : String) (m : Mapper)
    (source target : TypeExpr) (f : Converter) : Except Fault MapperPool := do
  let p ← p.registerInRegistry classes m source target f
  .ok (p.putMapper name { m with functions := [] })

def plan (p : MapperPool) (classes : Classes) (m : Mapper) (source target : TypeExpr)
    (creates : Bool) : Except Fault (Plan Converter) :=
  (Plan.build classes (p.registryOf m) source target creates).outcome

def createMutator (p : MapperPool) (classes : Classes) (m : Mapper) (source target : TypeExpr) :
    Except Fault MapFunction := do
  (← p.plan classes m source target false).compileMutator classes

def createFactory (p : MapperPool) (classes : Classes) (m : Mapper) (source target : TypeExpr) :
    Except Fault MapFunction := do
  (← p.plan classes m source target true).compileFactory classes

/-- The function that a mapper uses for a key: the one that it keeps, or else a new one, which
it keeps from then on. -/
def functionFor (p : MapperPool) (classes : Classes) (name : String) (m : Mapper)
    (key : CacheKey) : Except Fault (MapperPool × MapFunction) :=
  match m.functions.lookup key with
  | some f => .ok (p, f)
  | none => do
    let f ←
      if key.creates then p.createFactory classes m (.cls key.source) (.cls key.target)
      else p.createMutator classes m (.cls key.source) (.cls key.target)
    .ok (p.putMapper name { m with functions := m.functions ++ [(key, f)] }, f)

def absenceFault (w : World) (source target : Slot) : Fault :=
  match w.classes.shown (w.load source), w.classes.shown (w.load target) with
  | .ok source, .ok target =>
    .absent ("Source and target cannot be None, got " ++ source ++ " and " ++ target ++ ".")
  | .error fault, _ | _, .error fault => fault

/-- Maps an object to a target: a new object of a class, or an object that is there. -/
def map (p : MapperPool) (w : World) (name : String) (m : Mapper) (source target : Slot) :
    MapOutcome :=
  if source.isNone || target.isNone then ⟨p, w, .error (absenceFault w source target)⟩
  else
    match target with
    | .atom (.classRef c) =>
      match p.functionFor w.classes name m ⟨w.classOf source, c, true⟩ with
      | .error fault => ⟨p, w, .error fault⟩
      | .ok (p, f) =>
        let (w, result) := w.produce f source
        ⟨p, w, result⟩
    | target =>
      match p.functionFor w.classes name m ⟨w.classOf source, w.classOf target, false⟩ with
      | .error fault => ⟨p, w, .error fault⟩
      | .ok (p, f) =>
        match w.mutate f source target with
        | (w, some fault) => ⟨p, w, .error fault⟩
        | (w, none) => ⟨p, w, .ok target⟩

end MapperPool

end Memberwise
