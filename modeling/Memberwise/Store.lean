import Memberwise.Value

/-! # Stores

Objects that can be shared live in the cells of a store and are named by their place.  A value
can be read from a store as a tree whose nodes know their places, and put into a store, where
nodes that know a place are the objects there and all others are made anew.
-/

namespace Memberwise

/-- What an attribute or an element holds: an atom, or an object by its place. -/
inductive Slot where
  | atom (a : Atom)
  | ref (p : Place)
deriving DecidableEq

namespace Slot

instance : Inhabited Slot := ⟨.atom .none⟩

abbrev none : Slot := .atom .none

def isNone : Slot → Bool
  | .atom .none => true
  | _ => false

end Slot

/-- The content of a place. -/
inductive Cell where
  | seq (kind : SeqKind) (items : List Slot)
  | dict (entries : List (Slot × Slot))
  | object (className : String) (core : Option Atom) (attributes : List (String × Slot))
deriving DecidableEq

instance : Inhabited Cell := ⟨.seq .list []⟩

/-- The class of what a cell holds. -/
def Cell.classOf : Cell → ClassRef
  | .seq kind _ => kind.classOf
  | .dict _ => .builtin .dict
  | .object name _ _ => .declared name

/-- A cell without its parts. -/
def Cell.hollow : Cell → Cell
  | .seq kind _ => .seq kind []
  | .dict _ => .dict []
  | .object name core _ => .object name core []

/-- What a cell at a place holds, given the values of its parts. -/
def Cell.valueAt (p : Place) (part : Slot → Value) : Cell → Value
  | .seq kind items => .seq (some p) kind (items.map part)
  | .dict entries => .dict (some p) (entries.map fun (k, v) => (part k, part v))
  | .object name core attributes =>
    .object (some p) name core (attributes.map fun (name, v) => (name, part v))

structure Store where
  cells : Array Cell

namespace Store

def empty : Store := ⟨#[]⟩

instance : Inhabited Store := ⟨empty⟩

def size (s : Store) : Nat := s.cells.size

def get? (s : Store) (p : Place) : Option Cell := s.cells[p]?

/-- The store with a cell at a new place. -/
def alloc (s : Store) (c : Cell) : Store × Place := (⟨s.cells.push c⟩, s.cells.size)

/-- The store with another cell at an existing place. -/
def set (s : Store) (p : Place) (c : Cell) : Store := ⟨s.cells.setIfInBounds p c⟩

theorem get?_alloc_of_lt {s : Store} {c : Cell} {p : Place} (h : p < s.size) :
    (s.alloc c).1.get? p = s.get? p := by
  simp only [size] at h
  simp [alloc, get?, Array.getElem?_push, Nat.ne_of_lt h]

theorem get?_alloc_self (s : Store) (c : Cell) : (s.alloc c).1.get? (s.alloc c).2 = some c := by
  simp [alloc, get?]

theorem get?_set_of_ne {s : Store} {c : Cell} {p q : Place} (h : q ≠ p) :
    (s.set p c).get? q = s.get? q := by
  simp [set, get?, Array.getElem?_setIfInBounds_ne (Ne.symm h)]

theorem get?_set_self {s : Store} {c : Cell} {p : Place} (h : p < s.size) :
    (s.set p c).get? p = some c := by
  simp only [size] at h
  simp [set, get?, h]

def classOf (s : Store) : Slot → ClassRef
  | .atom a => a.classOf
  | .ref p => ((s.get? p).map Cell.classOf).getD (.builtin .object)

/-- Reading with a bound on the depth, from inside the objects at the places of a path.  An
object that holds itself is seen from inside without its parts. -/
def loadWithin (s : Store) : (depth : Nat) → (path : List Place) → Slot → Value
  | _, _, .atom a => .atom a
  | 0, _, .ref p => ((s.get? p).map fun cell => cell.hollow.valueAt p fun _ => .none).getD .none
  | depth + 1, path, .ref p =>
    let part (slot : Slot) := s.loadWithin depth (p :: path) slot
    ((s.get? p).map fun cell =>
      (if path.contains p then cell.hollow else cell).valueAt p part).getD .none

/-- The value that a slot holds.  No path without repetition is longer than the store. -/
def load (s : Store) (slot : Slot) : Value := s.loadWithin s.size [] slot

mutual

def intern (s : Store) : Value → Store × Slot
  | .atom a => (s, .atom a)
  | .seq (some p) _ _ | .dict (some p) _ | .object (some p) _ _ _ => (s, .ref p)
  | .seq Option.none kind items =>
    let (s, slots) := internAll s items
    let (s, p) := s.alloc (.seq kind slots)
    (s, .ref p)
  | .dict none entries =>
    let (s, slots) := internEntries s entries
    let (s, p) := s.alloc (.dict slots)
    (s, .ref p)
  | .object none name core attributes =>
    let (s, slots) := internAttributes s attributes
    let (s, p) := s.alloc (.object name core slots)
    (s, .ref p)

def internAll (s : Store) : List Value → Store × List Slot
  | [] => (s, [])
  | v :: rest =>
    let (s, slot) := intern s v
    let (s, slots) := internAll s rest
    (s, slot :: slots)

def internEntries (s : Store) : List (Value × Value) → Store × List (Slot × Slot)
  | [] => (s, [])
  | (k, v) :: rest =>
    let (s, key) := intern s k
    let (s, slot) := intern s v
    let (s, slots) := internEntries s rest
    (s, (key, slot) :: slots)

def internAttributes (s : Store) : List (String × Value) → Store × List (String × Slot)
  | [] => (s, [])
  | (name, v) :: rest =>
    let (s, slot) := intern s v
    let (s, slots) := internAttributes s rest
    (s, (name, slot) :: slots)

end

/-- Whether two slots hold the same object.  All empty tuples are one object. -/
def sameObject (s : Store) : Slot → Slot → Bool
  | .atom a, .atom b => a == b
  | .ref p, .ref q =>
    p == q || (s.get? p == some (.seq .tuple []) && s.get? q == some (.seq .tuple []))
  | _, _ => false

end Store

end Memberwise
