import Memberwise.Converter.Application

/-! # Value expressions

How a session writes down values: scalars, collections, instances made by calls, and variables,
each of which names an object that is shared and not copied.
-/

namespace Memberwise

/-- A value as it is written down. -/
inductive Expr where
  | atom (a : Atom)
  /-- A member of an enumeration by any of its names. -/
  | member (enumeration name : String)
  | seq (kind : SeqKind) (items : List Expr)
  | dict (entries : List (Expr × Expr))
  /-- An instance of a class that extends a scalar class. -/
  | wrapped (className : String) (core : Expr)
  /-- An instance made with named arguments. -/
  | object (c : ClassRef) (arguments : List (String × Expr))
  | variable (name : String)

namespace Expr

instance : Inhabited Expr := ⟨.atom .none⟩

/-- A scalar as the core of an instance of a class that extends a scalar class. -/
def wrap (classes : Classes) (c : ClassRef) (a : Atom) : Atom :=
  match classes.scalarKind? c with
  | none => a
  | some kind =>
    match Conversion.convertScalar c.name kind a with
    | .ok core => core
    | .error _ => a

/-- The entries of a mapping with one more: an equal key keeps its place and takes the new
value. -/
def insertEntry (w : World) (entries : List (Slot × Slot)) (k v : Slot) :
    Except Fault (List (Slot × Slot)) :=
  match w.classes.keyOf? (w.load k) with
  | none => .error .typeMismatch
  | some key =>
    let isSame (other : Slot) := (w.classes.keyOf? (w.load other)).any (sameKey key)
    if entries.any fun entry => isSame entry.1 then
      .ok (entries.map fun entry => if isSame entry.1 then (entry.1, v) else entry)
    else .ok (entries ++ [(k, v)])

mutual

/-- The object that an expression denotes, made in the world if it is not there. -/
def evaluate (slotOf? : String → Option Slot) (w : World) :
    Expr → Except Fault (World × Slot)
  | .atom a => .ok (w, .atom a)
  | .member owner name => .ok (w, .atom (.member owner (w.classes.canonicalMember owner name)))
  | .variable name =>
    match slotOf? name with
    | some slot => .ok (w, slot)
    | none => .error .unresolvedName
  | .seq kind items => do
    let (w, slots) ← evaluateAll slotOf? w items
    match kind with
    | .set | .frozenset => do
      .ok (w.alloc (.seq kind (← slots.foldlM w.insertInto [])))
    | _ => .ok (w.alloc (.seq kind slots))
  | .dict entries => do
    let (w, slots) ← evaluateEntries slotOf? w entries
    let kept ← slots.foldlM (fun kept (k, v) => insertEntry w kept k v) []
    .ok (w.alloc (.dict kept))
  | .wrapped name core => do
    let (w, slot) ← evaluate slotOf? w core
    match w.scalarOf? slot with
    | some a =>
      .ok (w.alloc (.object name (some (wrap w.classes (.declared name) a)) []))
    | none => .error .typeMismatch
  | .object c arguments => do
    let (w, named) ← evaluateArguments slotOf? w arguments
    w.create c named

def evaluateAll (slotOf? : String → Option Slot) (w : World) :
    List Expr → Except Fault (World × List Slot)
  | [] => .ok (w, [])
  | e :: rest => do
    let (w, slot) ← evaluate slotOf? w e
    let (w, slots) ← evaluateAll slotOf? w rest
    .ok (w, slot :: slots)

def evaluateEntries (slotOf? : String → Option Slot) (w : World) :
    List (Expr × Expr) → Except Fault (World × List (Slot × Slot))
  | [] => .ok (w, [])
  | (k, v) :: rest => do
    let (w, key) ← evaluate slotOf? w k
    let (w, slot) ← evaluate slotOf? w v
    let (w, slots) ← evaluateEntries slotOf? w rest
    .ok (w, (key, slot) :: slots)

def evaluateArguments (slotOf? : String → Option Slot) (w : World) :
    List (String × Expr) → Except Fault (World × List (String × Slot))
  | [] => .ok (w, [])
  | (name, e) :: rest => do
    let (w, slot) ← evaluate slotOf? w e
    let (w, slots) ← evaluateArguments slotOf? w rest
    .ok (w, (name, slot) :: slots)

end

def value (w : World) (e : Expr) : Except Fault (World × Value) := do
  let (w, slot) ← evaluate (fun _ => none) w e
  .ok (w, w.load slot)

end Expr

end Memberwise
