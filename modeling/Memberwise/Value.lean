import Memberwise.Class.Builtin
import Memberwise.Number.Binary64
import Memberwise.Number.Decimal
import Memberwise.Calendar.Clock

/-! # Values

What members hold.  Scalars, enumeration members and classes are atoms.  All else is a tree
whose inner nodes are collections, mappings and objects; a node remembers the place in the
store that it was read from, if any, by which two nodes are known to be the same object.
-/

namespace Memberwise

/-- A value without parts. -/
inductive Atom where
  | none
  | bool (b : Bool)
  | int (n : Int)
  | float (x : Binary64)
  | complex (re im : Binary64)
  | str (s : String)
  | bytes (content : List UInt8)
  | decimal (d : Decimal)
  | date (d : Date)
  | datetime (m : Moment)
  | time (t : TimeOfDay)
  | timedelta (span : Duration)
  | uuid (n : Nat)
  | member (enumeration name : String)
  | classRef (c : ClassRef)
deriving DecidableEq

/-- The place of an object in a store. -/
abbrev Place := Nat

/-- The kinds of collections; a bag is an instance of a declared collection class.  An iterator is
counted among them: it holds the elements that it has not yielded yet, and tells how many it has
yielded.  It yields each element once. -/
inductive SeqKind where
  | list | tuple | set | frozenset | deque | bytearray
  | bag (className : String)
  | iterator (yielded : Nat)
deriving DecidableEq, Repr

/-- The parts of a scalar that can be iterated: the characters of a text, the numbers of bytes. -/
def Atom.parts? : Atom → Option (List Atom)
  | .str s => some (s.toList.map fun c => .str (String.singleton c))
  | .bytes content => some (content.map fun b => .int b.toNat)
  | _ => Option.none

/-- A value as a tree.  An object holds the atom it wraps, if its class extends a scalar
class, and the attributes stored on it. -/
inductive Value where
  | atom (a : Atom)
  | seq (place : Option Place) (kind : SeqKind) (items : List Value)
  | dict (place : Option Place) (entries : List (Value × Value))
  | object (place : Option Place) (className : String) (core : Option Atom)
      (attributes : List (String × Value))

namespace Value

instance : Inhabited Value := ⟨.atom .none⟩

abbrev none : Value := .atom .none

def isNone : Value → Bool
  | .atom .none => true
  | _ => false

/-- A freshly made list. -/
def list (items : List Value) : Value := .seq Option.none .list items

/-- A freshly made text. -/
def text (s : List Char) : Value := .atom (.str (String.ofList s))

/-- The scalar that a value is or wraps. -/
def core? : Value → Option Atom
  | .atom a => some a
  | .object _ _ core _ => core
  | _ => Option.none

end Value

mutual

/-- A value as a copy of its own, at no place. -/
def Value.detach : Value → Value
  | .atom a => .atom a
  | .seq _ kind items => .seq Option.none kind (Value.detachAll items)
  | .dict _ entries => .dict Option.none (Value.detachEntries entries)
  | .object _ name core attributes =>
    .object Option.none name core (Value.detachAttributes attributes)

def Value.detachAll : List Value → List Value
  | [] => []
  | v :: rest => v.detach :: Value.detachAll rest

def Value.detachEntries : List (Value × Value) → List (Value × Value)
  | [] => []
  | (k, v) :: rest => (k.detach, v.detach) :: Value.detachEntries rest

def Value.detachAttributes : List (String × Value) → List (String × Value)
  | [] => []
  | (name, v) :: rest => (name, v.detach) :: Value.detachAttributes rest

end

mutual

/-- A value whose objects are at other places. -/
def Value.rename (ρ : Place → Place) : Value → Value
  | .atom a => .atom a
  | .seq place kind items => .seq (place.map ρ) kind (Value.renameAll ρ items)
  | .dict place entries => .dict (place.map ρ) (Value.renameEntries ρ entries)
  | .object place name core attributes =>
    .object (place.map ρ) name core (Value.renameAttributes ρ attributes)

def Value.renameAll (ρ : Place → Place) : List Value → List Value
  | [] => []
  | v :: rest => v.rename ρ :: Value.renameAll ρ rest

def Value.renameEntries (ρ : Place → Place) : List (Value × Value) → List (Value × Value)
  | [] => []
  | (k, v) :: rest => (k.rename ρ, v.rename ρ) :: Value.renameEntries ρ rest

def Value.renameAttributes (ρ : Place → Place) : List (String × Value) → List (String × Value)
  | [] => []
  | (name, v) :: rest => (name, v.rename ρ) :: Value.renameAttributes ρ rest

end

def Atom.classOf : Atom → ClassRef
  | .none => .builtin .noneType
  | .bool _ => .builtin .bool
  | .int _ => .builtin .int
  | .float _ => .builtin .float
  | .complex .. => .builtin .complex
  | .str _ => .builtin .str
  | .bytes _ => .builtin .bytes
  | .decimal _ => .builtin .decimal
  | .date _ => .builtin .date
  | .datetime _ => .builtin .datetime
  | .time _ => .builtin .time
  | .timedelta _ => .builtin .timedelta
  | .uuid _ => .builtin .uuid
  | .member enumeration _ => .declared enumeration
  | .classRef _ => .builtin .type

def SeqKind.classOf : SeqKind → ClassRef
  | .list => .builtin .list
  | .tuple => .builtin .tuple
  | .set => .builtin .set
  | .frozenset => .builtin .frozenset
  | .deque => .builtin .deque
  | .bytearray => .builtin .bytearray
  | .bag name => .declared name
  | .iterator _ => .builtin .validatorIterator

def Value.classOf : Value → ClassRef
  | .atom a => a.classOf
  | .seq _ kind _ => kind.classOf
  | .dict .. => .builtin .dict
  | .object _ name .. => .declared name

end Memberwise
