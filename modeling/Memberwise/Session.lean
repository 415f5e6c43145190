import Memberwise.Mapper
import Memberwise.Session.Expr

/-! # Sessions

A session carries out commands one after another in one world: it binds and changes objects,
registers rules, and makes and runs mapping functions.  A command that fails is answered by its
fault, and the session goes on.
-/

namespace Memberwise

/-- What a variable stands for. -/
inductive Bound where
  | slot (s : Slot)
  | function (f : MapFunction)

/-- A command of a session. -/
inductive Command where
  | addMapper (name : String) (share : Option String)
  | register (mapper : String) (source target : TypeExpr) (f : Converter) (pastMapper : Bool)
  | bind (name : String) (value : Expr)
  | set (owner : Expr) (name : String) (value : Expr)
  | delete (owner : Expr) (name : String)
  | get (owner : Expr) (name : String)
  | dump (owner : Expr)
  | append (owner : Expr) (name : String) (value : Expr)
  | same (a b : Expr) (name : String)
  | plan (mapper : String) (source target : TypeExpr) (creates : Bool)
  | createFunction (mapper : String) (source target : TypeExpr) (creates : Bool) (name : String)
  | mutate (function : String) (source target : Expr)
  | create (function : String) (source : Expr) (name : Option String)
  | map (mapper : String) (source target : Expr) (name : Option String)

/-- What a command gives. -/
inductive Answer where
  | done
  | truth (b : Bool)
  | value (v : Value)
  | name (text : String)
  | plan (p : Plan Converter)

/-- The answer to a command, with the state of the object that it worked on, and whether its
result is that object. -/
structure Report where
  outcome : Except Fault Answer
  target : Option Value
  isTarget : Option Bool

namespace Report

def ok (answer : Answer) : Report := ⟨.ok answer, none, none⟩

def error (fault : Fault) : Report := ⟨.error fault, none, none⟩

end Report

structure Session where
  world : World
  pool : MapperPool
  bindings : List (String × Bound)

namespace Session

/-- A session in a world, with one mapper. -/
def start (world : World) (mapper : String) : Session := ⟨world, .single mapper, []⟩

/-- The object that a variable stands for. -/
def slot? (s : Session) (name : String) : Option Slot :=
  match s.bindings.lookup name with
  | some (.slot slot) => some slot
  | _ => none

def bindName (s : Session) (name : String) (b : Bound) : Session :=
  { s with bindings := (name, b) :: s.bindings.filter (·.1 != name) }

def bindName? (s : Session) (name : Option String) (b : Bound) : Session :=
  match name with
  | some name => s.bindName name b
  | none => s

/-- The object that an expression denotes. -/
def evaluate (s : Session) (e : Expr) : Except Fault (Session × Slot) := do
  let (world, slot) ← e.evaluate s.slot? s.world
  .ok ({ s with world }, slot)

def mapper (s : Session) (name : String) : Except Fault Mapper :=
  match s.pool.mapper? name with
  | some m => .ok m
  | none => .error .unresolvedName

/-- The function that a variable stands for. -/
def function (s : Session) (name : String) : Except Fault MapFunction :=
  match s.bindings.lookup name with
  | some (.function f) => .ok f
  | some (.slot _) => .error .typeMismatch
  | none => .error .unresolvedName

def value (s : Session) (slot : Slot) : Value := s.world.load slot

def runMutate (s : Session) (function : String) (source target : Expr) :
    Except Fault (Session × Report) := do
  let f ← s.function function
  let (s, source) ← s.evaluate source
  let (s, target) ← s.evaluate target
  let (world, fault) := s.world.mutate f source target
  let s := { s with world }
  let outcome : Except Fault Answer :=
    match fault with
    | some fault => .error fault
    | none => .ok .done
  .ok (s, ⟨outcome, some (s.value target), none⟩)

def runCreate (s : Session) (function : String) (source : Expr) (name : Option String) :
    Except Fault (Session × Report) := do
  let f ← s.function function
  let (s, source) ← s.evaluate source
  let (world, outcome) := s.world.produce f source
  let s := { s with world }
  match outcome with
  | .error fault => .ok (s, .error fault)
  | .ok result => .ok (s.bindName? name (.slot result), .ok (.value (s.value result)))

/-- Maps one object by a mapper. -/
def runMap (s : Session) (mapper : String) (source target : Expr) (name : Option String) :
    Except Fault (Session × Report) := do
  let (s, source) ← s.evaluate source
  let (s, target) ← s.evaluate target
  let m ← s.mapper mapper
  let outcome := s.pool.map s.world mapper m source target
  let s := { s with pool := outcome.pool, world := outcome.world }
  let isClass := target matches .atom (.classRef _)
  let after := if isClass then none else some (s.value target)
  match outcome.result with
  | .error fault => .ok (s, ⟨.error fault, after, none⟩)
  | .ok result =>
    .ok (s.bindName? name (.slot result), ⟨.ok (.value (s.value result)), after,
      if isClass then none else some (s.world.store.sameObject result target)⟩)

/-- Carries out a command that does not fail. -/
def carryOut (s : Session) : Command → Except Fault (Session × Report)
  | .addMapper name share => do
    let shared ← share.mapM s.mapper
    .ok ({ s with pool := s.pool.addMapper name shared }, .ok (.truth true))
  | .register mapper source target f pastMapper => do
    let m ← s.mapper mapper
    let pool ←
      if pastMapper then s.pool.registerInRegistry s.world.classes m source target f
      else s.pool.register s.world.classes mapper m source target f
    .ok ({ s with pool }, .ok (.truth true))
  | .bind name value => do
    let (s, slot) ← s.evaluate value
    .ok (s.bindName name (.slot slot), .ok (.value (s.value slot)))
  | .set owner name value => do
    let (s, owner) ← s.evaluate owner
    let (s, v) ← s.evaluate value
    let s := { s with world := ← s.world.setAttribute owner name v }
    .ok (s, ⟨.ok .done, some (s.value owner), none⟩)
  | .delete owner name => do
    let (s, owner) ← s.evaluate owner
    let s := { s with world := ← s.world.deleteAttribute owner name }
    .ok (s, ⟨.ok .done, some (s.value owner), none⟩)
  | .get owner name => do
    let (s, owner) ← s.evaluate owner
    let (world, v) ← s.world.getAttribute owner name
    let s := { s with world }
    .ok (s, .ok (.value (s.value v)))
  | .dump owner => do
    let (s, owner) ← s.evaluate owner
    .ok (s, .ok (.value (s.value owner)))
  | .append owner name value => do
    let (s, owner) ← s.evaluate owner
    let (s, v) ← s.evaluate value
    let (world, collection) ← s.world.getAttribute owner name
    if world.classes.hasMember (world.classOf collection) "append" then
      .ok ({ s with world := ← world.addElement collection v }, .ok .done)
    else .error .missingAttribute
  | .same a b name => do
    let (s, a) ← s.evaluate a
    let (s, b) ← s.evaluate b
    let (world, v) ← s.world.getAttribute a name
    let (world, w) ← world.getAttribute b name
    .ok ({ s with world }, .ok (.truth (world.store.sameObject v w)))
  | .plan mapper source target creates => do
    let m ← s.mapper mapper
    .ok (s, .ok (.plan (← s.pool.plan s.world.classes m source target creates)))
  | .createFunction mapper source target creates name => do
    let m ← s.mapper mapper
    let f ←
      if creates then s.pool.createFactory s.world.classes m source target
      else s.pool.createMutator s.world.classes m source target
    .ok (s.bindName name (.function f), .ok (.name f.name))
  | .mutate function source target => s.runMutate function source target
  | .create function source name => s.runCreate function source name
  | .map mapper source target name => s.runMap mapper source target name

/-- Carries out a command.  One that fails leaves the session as it was. -/
def step (s : Session) (c : Command) : Session × Report :=
  match s.carryOut c with
  | .ok result => result
  | .error fault => (s, .error fault)

def run (s : Session) : List Command → Session × List Report
  | [] => (s, [])
  | c :: rest =>
    let (s, report) := s.step c
    let (s, reports) := s.run rest
    (s, report :: reports)

end Session

end Memberwise
