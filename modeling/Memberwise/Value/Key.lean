import Memberwise.Class.Classes
import Memberwise.Number.Exact

/-! # Keys of values

Sets and mappings tell their elements apart by equality, which does not see the kind of a
number: a truth value, an integer, a binary and a decimal number are equal if they denote the
same number.  The key of a value is a list of tokens that equal values share, so that equality
of values is plain equality of keys.
-/

namespace Memberwise

/-- One part of a complex number, or a real number. -/
inductive NumberPart where
  | exact (x : Exact)
  | infinite (negative : Bool)
  | notANumber
deriving DecidableEq

def NumberPart.zero : NumberPart := .exact ⟨0, 0⟩

def NumberPart.ofBinary64 (x : Binary64) : NumberPart :=
  match Exact.ofBinary64? x, x with
  | some value, _ => .exact value
  | none, .infinity negative => .infinite negative
  | none, _ => .notANumber

def NumberPart.ofDecimal (d : Decimal) : NumberPart :=
  match Exact.ofDecimal? d, d with
  | some value, _ => .exact value
  | none, .infinity negative => .infinite negative
  | none, _ => .notANumber

/-- A piece of a key. -/
inductive Token where
  | none
  | number (re im : NumberPart)
  | text (s : String)
  | bytes (content : List UInt8)
  | date (d : Date)
  | moment (tied : Bool) (micros : Int)
  | clock (tied : Bool) (micros : Int)
  | span (micros : Int)
  | uuid (n : Nat)
  | member (enumeration name : String)
  | classRef (c : ClassRef)
  /-- Opens the tokens of a composite value. -/
  | opening (tag : ClassRef)
  | closing
  /-- An object that is equal to itself only. -/
  | place (p : Option Place)
deriving DecidableEq

/-- The token that equal atoms share. -/
def Atom.token : Atom → Token
  | .none => .none
  | .bool b => .number (.exact (Exact.ofInt (if b then 1 else 0))) .zero
  | .int n => .number (.exact (Exact.ofInt n)) .zero
  | .float x => .number (.ofBinary64 x) .zero
  | .complex re im => .number (.ofBinary64 re) (.ofBinary64 im)
  | .str s => .text s
  | .bytes content => .bytes content
  | .decimal d => .number (.ofDecimal d) .zero
  | .date d => .date d
  | .datetime m =>
    match m.universalMicros? with
    | some micros => .moment true micros
    | Option.none => .moment false m.localMicros
  | .time t =>
    match t.offset with
    | some offset => .clock true (t.clock.toMicros - offset.micros)
    | Option.none => .clock false t.clock.toMicros
  | .timedelta span => .span span.micros
  | .uuid n => .uuid n
  | .member enumeration name => .member enumeration name
  | .classRef c => .classRef c

/-- Whether values with a token are equal to other such values at all. -/
def Token.isReflexive : Token → Bool
  | .number re im => re != .notANumber && im != .notANumber
  | .place p => p.isSome
  | _ => true

/-- What equal values have in common. -/
abbrev Key := List Token

/-- Whether two keys are those of equal values. -/
def sameKey (a b : Key) : Bool := a == b && a.all Token.isReflexive

/-- The class that collections of a kind are compared as.  A set is equal to a frozen set of the
same elements, though only the latter may be in a set. -/
def SeqKind.comparedAs : SeqKind → ClassRef
  | .frozenset => .builtin .set
  | kind => kind.classOf

mutual

/-- The key of a value by its shape alone: objects count by their place. -/
def Value.shape : Value → Key
  | .atom a => [a.token]
  | .seq _ kind items => .opening kind.comparedAs :: Value.shapes items ++ [.closing]
  | .dict _ entries => .opening (.builtin .dict) :: Value.entryShapes entries ++ [.closing]
  | .object place _ Option.none _ => [.place place]
  | .object _ _ (some core) _ => [core.token]

def Value.shapes : List Value → Key
  | [] => []
  | v :: rest => v.shape ++ Value.shapes rest

def Value.entryShapes : List (Value × Value) → Key
  | [] => []
  | (k, v) :: rest => k.shape ++ v.shape ++ Value.entryShapes rest

end

/-- How the objects of a class are compared. -/
inductive Identity where
  /-- Each object is equal to itself only. -/
  | byPlace
  /-- Objects of one class with equal attributes are equal. -/
  | byAttributes
  /-- Objects may change while they are equal, so they are in no set. -/
  | unhashable
deriving DecidableEq, Repr

namespace Classes

/-- The settings of a model: of those along the lineage the nearest that is given. -/
def modelOption? {α : Type} (classes : Classes) (c : ClassRef)
    (option : ModelOptions → Option α) : Option α :=
  (classes.declsOf c).findSome? fun decl =>
    match decl.kind with
    | .model options => option options
    | _ => none

/-- Whether the instances of a model refuse to be changed. -/
def isFrozenModel (classes : Classes) (c : ClassRef) : Bool :=
  (classes.modelOption? c (·.frozen)).getD false

def identityOf (classes : Classes) (c : ClassRef) : Identity :=
  if classes.isModel c then
    if classes.isFrozenModel c then .byAttributes else .unhashable
  else
    ((classes.declsOf c).findSome? fun decl =>
      match decl.kind with
      | .record options =>
        if options.comparesFields then
          if options.frozen || options.forcesHash then some .byAttributes else some .unhashable
        else if options.forcesHash then some .byAttributes
        else none
      | _ => none).getD .byPlace

mutual

/-- The key under which a value is put into a set, unless it may not be. -/
def keyOf? (classes : Classes) : Value → Option Key
  | .atom a =>
    match classes.scalarOf? (.atom a) with
    | some (.decimal (.nan _ true _)) => none
    | some b => some [b.token]
    | none => some [a.token]
  | .seq place kind items =>
    match kind with
    | .list | .set | .deque | .bytearray => none
    | .bag _ | .iterator _ => some [.place place]
    | .tuple | .frozenset =>
      (keysOf? classes items).map fun keys => .opening kind.classOf :: keys ++ [.closing]
  | .dict .. => none
  | .object _ _ (some core) _ => if core matches .decimal (.nan _ true _) then none
    else some [core.token]
  | .object place name none attributes =>
    match classes.identityOf (.declared name) with
    | .byPlace => some [.place place]
    | .unhashable => none
    | .byAttributes =>
      (attributeKeys? classes attributes).map fun keys =>
        .opening (.declared name) :: keys ++ [.closing]

def keysOf? (classes : Classes) : List Value → Option Key
  | [] => some []
  | v :: rest => do
    let key ← keyOf? classes v
    let keys ← keysOf? classes rest
    some (key ++ keys)

def attributeKeys? (classes : Classes) : List (String × Value) → Option Key
  | [] => some []
  | (name, v) :: rest => do
    let key ← keyOf? classes v
    let keys ← attributeKeys? classes rest
    some (.text name :: key ++ keys)

end

/-- Whether a value is hashable, so that it may be an element of a set. -/
def isHashable (classes : Classes) (v : Value) : Bool := (classes.keyOf? v).isSome

/-- Adds a value to the elements of a set, unless an equal one is there.  Nothing is returned
for a value that may not be in a set. -/
def insertElement? (classes : Classes) (elements : List Value) (v : Value) :
    Option (List Value) :=
  (classes.keyOf? v).map fun key =>
    if elements.any fun e => (classes.keyOf? e).any (sameKey key) then elements
    else elements ++ [v]

/-- The elements of a set made from values in order. -/
def toSet? (classes : Classes) (values : List Value) : Option (List Value) :=
  values.foldlM (insertElement? classes) []

/-- The canonical name of an enumeration member: the first one with an equal value. -/
def canonicalMember (classes : Classes) (enumeration name : String) : String :=
  let key := (classes.memberValue enumeration name).shape
  match (classes.membersOf enumeration).find? fun entry => entry.2.shape == key with
  | some (first, _) => first
  | none => name

/-- The members of an enumeration that are no other names for earlier ones. -/
def properMembers (classes : Classes) (enumeration : String) : List (String × Value) :=
  (classes.membersOf enumeration).filter fun (name, _) =>
    classes.canonicalMember enumeration name == name

end Classes

end Memberwise
