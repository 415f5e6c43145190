import Memberwise.World.Attribute

/-! # Collections

What an object yields when it is iterated, how an element is added to a collection, and the
copying of elements, each converted to one type, from one collection into another.

A method for iterating hands on what an attribute of the object yields, or yields nothing, and one
for adding arranges what a declared collection holds together with the new element, or refuses it.
Left out are methods that change other objects, what becomes of an iterator when the collection
under it changes later, and the elements of objects whose class is only beneath a declared collection:
they yield nothing and take nothing.
-/

namespace Memberwise.World

/-- The names and values that a model yields, each pair as a new tuple. -/
def pairUp (w : World) : List (String × Slot) → World × List Slot
  | [] => (w, [])
  | (name, v) :: rest =>
    let (w, pair) := w.alloc (.seq .tuple [.atom (.str name), v])
    let (w, pairs) := w.pairUp rest
    (w, pair :: pairs)

/-- The parts of a scalar as slots. -/
def parts (w : World) (a : Option Atom) : Except Fault (World × List Slot) :=
  match a.bind Atom.parts? with
  | some parts => .ok (w, parts.map .atom)
  | none => .error .typeMismatch

/-- What an object yields, given what the objects yield that methods of declared classes lead to.
An iterator yields all that it still holds, and is spent then. -/
def elementsBy (w : World) (further : Slot → Except Fault (World × List Slot)) :
    Slot → Except Fault (World × List Slot)
  | .atom (.classRef (.declared name)) =>
    if w.classes.isEnumeration (.declared name) then
      .ok (w, (w.classes.properMembers name).map fun entry => .atom (.member name entry.1))
    else .error .typeMismatch
  | .atom a => w.parts (w.classes.scalarOf? (.atom a))
  | .ref p =>
    match w.store.get? p with
    | some (.seq (.iterator yielded) items) =>
      .ok (w.set p (.seq (.iterator (yielded + items.length)) []), items)
    | some (.seq _ items) => .ok (w, items)
    | some (.dict entries) => .ok (w, entries.map (·.1))
    | some (.object name core attributes) =>
      match w.classes.iterationOf (.declared name) with
      | .nothing => .ok (w, [])
      | .attribute source =>
        match attributes.lookup source with
        | some v => further v
        | none => .error .missingAttribute
      | .impossible => .error .typeMismatch
      | .inherent =>
        if w.classes.isModel (.declared name) then
          .ok (w.pairUp (attributes.filter fun entry => !isHiddenName entry.1))
        else w.parts core
    | none => .error .typeMismatch

/-- What an object yields, with a bound on how far methods of declared classes lead. -/
def elementsWithin (w : World) : (depth : Nat) → Slot → Except Fault (World × List Slot)
  | 0 => w.elementsBy fun _ => .error .endless
  | depth + 1 => w.elementsBy (w.elementsWithin depth)

/-- How many calls may be inside one another. -/
def callLimit : Nat := 1000

/-- What an object yields, if it can be iterated. -/
def elements (w : World) (slot : Slot) : Except Fault (World × List Slot) :=
  w.elementsWithin callLimit slot

/-- What is copied from a source: nothing from one that is absent, else what it yields. -/
def yielded (w : World) (source : Slot) : Except Fault (World × List Slot) :=
  if source.isNone then .ok (w, []) else w.elements source

/-- Whether an object has a method for adding elements. -/
def canGrow (w : World) (slot : Slot) : Bool := (w.classes.adding? (w.classOf slot)).isSome

/-- The elements of a set with one more, unless an equal one is there. -/
def insertInto (w : World) (items : List Slot) (v : Slot) : Except Fault (List Slot) :=
  match w.classes.keyOf? (w.load v) with
  | none => .error .typeMismatch
  | some key =>
    if items.any fun item => (w.classes.keyOf? (w.load item)).any (sameKey key) then .ok items
    else .ok (items ++ [v])

/-- The bytes of a growing sequence of bytes with one more. -/
def appendByte (items : List Slot) (v : Slot) : Except Fault (List Slot) :=
  let append (n : Int) : Except Fault (List Slot) :=
    if 0 ≤ n ∧ n < 256 then .ok (items ++ [.atom (.int n)])
    else .error (.value "byte must be in range(0, 256)")
  match v with
  | .atom (.int n) => append n
  | .atom (.bool b) => append (if b then 1 else 0)
  | _ => .error .typeMismatch

/-- What a method of a program's own makes of the elements of a collection. -/
def arrange (w : World) (adder : Adder) (items : List Slot) (v : Slot) :
    Except Fault (List Slot) := do
  let numbers ← adder.arrange (items.map w.load) (w.load v)
  .ok (numbers.filterMap fun n => (items ++ [v])[n]?)

/-- What a method makes of the elements of a collection of a kind; only collections of some kinds
have it. -/
def call (w : World) (m : Adding) (kind : SeqKind) (items : List Slot) (v : Slot) :
    Except Fault (List Slot) :=
  match m, kind with
  | .append, .list | .append, .deque => .ok (items ++ [v])
  | .append, .bytearray => appendByte items v
  | .add, .set => w.insertInto items v
  | m, .bag name =>
    match w.classes.adder? name m with
    | some adder => w.arrange adder items v
    | none => .ok items
  | _, _ => .error .missingAttribute

/-- Adds an element to a collection, by its method for appending if it has one, else by its
method for adding. -/
def addElement (w : World) (target v : Slot) : Except Fault World :=
  match w.classes.adding? (w.classOf target), target with
  | none, _ => .error .missingAttribute
  | some _, .atom _ => .ok w
  | some m, .ref p =>
    match w.store.get? p with
    | some (.seq kind items) => do .ok (w.set p (.seq kind (← w.call m kind items v)))
    | _ => .ok w

/-- Converts elements in order and adds them to a collection, up to the first fault.  Absent
elements are left out. -/
def addConverted (w : World) (target : Slot) (elementType : TypeExpr) :
    List Slot → World × Option Fault
  | [] => (w, none)
  | item :: rest =>
    if item.isNone then w.addConverted target elementType rest
    else
      match w.convert (w.load item) elementType with
      | (w, .error fault) => (w, some fault)
      | (w, .ok v) =>
        let (w, slot) := w.intern v
        match w.addElement target slot with
        | .error fault => (w, some fault)
        | .ok w => w.addConverted target elementType rest

/-- What is said of an absent collection that elements were to be copied into. -/
def absentCollectionMessage (classes : Classes) (elementType : TypeExpr) : String :=
  "Collection of " ++ classes.targetName elementType ++ " cannot be None."

/-- Copies the elements of one collection into another, converted to one type.  Nothing is
asked of the target if there are no elements. -/
def copyElements (w : World) (source target : Slot) (elementType : TypeExpr) :
    World × Option Fault :=
  match w.yielded source with
  | .error fault => (w, some fault)
  | .ok (w, []) => (w, none)
  | .ok (w, items) =>
    if target.isNone then (w, some (.absent (absentCollectionMessage w.classes elementType)))
    else if !w.canGrow target then (w, some .missingAttribute)
    else w.addConverted target elementType items

end Memberwise.World
