import Memberwise.Class.Naming
import Memberwise.Conversion
import Memberwise.Member.Discovery
import Memberwise.Store

/-! # Worlds

The classes of a program together with the objects that live beside them.  What a class keeps
for all its instances, such as a default, is one shared object.
-/

namespace Memberwise

/-- The name of something that a class keeps. -/
inductive ConstantKey where
  /-- The value of an attribute of the class, or the default of a field. -/
  | attribute (className name : String)
  /-- The default of a parameter of the initializer. -/
  | parameter (className name : String)
  /-- What a getter always returns. -/
  | getter (className name : String)
deriving DecidableEq, Repr

/-- Classes, objects, what classes keep, and the schemas that have been made. -/
structure World where
  classes : Classes
  store : Store
  constants : List (ConstantKey × Slot)
  schemas : SchemaCache

namespace World

def empty : World := ⟨[], .empty, [], .empty⟩

instance : Inhabited World := ⟨empty⟩

def constant (w : World) (key : ConstantKey) : Slot := (w.constants.lookup key).getD .none

def classOf (w : World) (slot : Slot) : ClassRef := w.store.classOf slot

def load (w : World) (slot : Slot) : Value := w.store.load slot

def intern (w : World) (v : Value) : World × Slot :=
  let (store, slot) := w.store.intern v
  ({ w with store }, slot)

def alloc (w : World) (c : Cell) : World × Slot :=
  let (store, p) := w.store.alloc c
  ({ w with store }, .ref p)

def set (w : World) (p : Place) (c : Cell) : World := { w with store := w.store.set p c }

/-- Keeps a value for a class. -/
def keep (w : World) (key : ConstantKey) (v : Value) : World :=
  let (w, slot) := w.intern v
  { w with constants := (key, slot) :: w.constants }

/-- A world in which a value has been converted into a type. -/
def afterConversion (w : World) (v : Value) (type : TypeExpr) : World :=
  { w with schemas := Conversion.knownAfter w.classes w.schemas v type }

def convert (w : World) (v : Value) (type : TypeExpr) : World × Except Fault Value :=
  (w.afterConversion v type, Conversion.convertWith w.classes w.schemas v type)

/-- Converts a value into a type, or falls back on a value. -/
def convertOr (w : World) (v : Value) (type : TypeExpr) (default : Value) : World × Value :=
  (w.afterConversion v type, Conversion.convertOrWith w.classes w.schemas v type default)

/-- What an entry of a class body keeps. -/
def keptByEntry (className : String) : Entry → List (ConstantKey × Value)
  | .field f =>
    match f.default with
    | .value v => [(.attribute className f.name, v)]
    | _ => []
  | .attribute name v => [(.attribute className name, v)]
  | .property name (some ⟨_, .constant v, _⟩) _ => [(.getter className name, v)]
  | _ => []

/-- What a parameter keeps. -/
def keptByParameter (className : String) (p : Parameter) : List (ConstantKey × Value) :=
  p.default.toList.map fun v => (.parameter className p.name, v)

/-- The values that a class declaration keeps. -/
def keptValues (decl : ClassDecl) : List (ConstantKey × Value) :=
  decl.body.flatMap (keptByEntry decl.name) ++
    ((decl.init.map Initializer.parameters).getD []).flatMap (keptByParameter decl.name)

/-- Adds a class to a world, unless its bases contradict each other. -/
def declare (w : World) (source : ClassDecl) : Option World :=
  let decl := source.withKeptNames
  (w.classes.declare decl).map fun classes =>
    (keptValues decl).foldl (fun w (key, v) => w.keep key v) { w with classes }

end World

end Memberwise
