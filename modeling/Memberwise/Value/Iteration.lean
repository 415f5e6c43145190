import Memberwise.Value.Key

/-! # What values yield

The elements of a value that is iterated.  An object of a declared class yields what the method of
its class says: nothing, or what an attribute of the object yields in its turn.
-/

namespace Memberwise

/-- How deeply a value is nested. -/
def Value.depth : Value → Nat
  | .atom _ => 0
  | .seq _ _ items => 1 + deepest items
  | .dict _ entries => 1 + deepestEntry entries
  | .object _ _ _ attributes => 1 + deepestAttribute attributes
where
  deepest : List Value → Nat
    | [] => 0
    | v :: rest => max v.depth (deepest rest)
  deepestEntry : List (Value × Value) → Nat
    | [] => 0
    | (k, v) :: rest => max (max k.depth v.depth) (deepestEntry rest)
  deepestAttribute : List (String × Value) → Nat
    | [] => 0
    | (_, v) :: rest => max v.depth (deepestAttribute rest)

namespace Classes

/-- The parts of a scalar as values. -/
def partsOf? (a : Option Atom) : Option (List Value) :=
  (a.bind Atom.parts?).map (List.map Value.atom)

/-- What a value yields, given what the values yield that methods of declared classes lead to. -/
def yieldedBy (classes : Classes) (further : Value → Option (List Value)) :
    Value → Option (List Value)
  | .atom (.classRef (.declared name)) =>
    if classes.isEnumeration (.declared name) then
      some ((classes.properMembers name).map fun entry => .atom (.member name entry.1))
    else none
  | .atom a => partsOf? (classes.scalarOf? (.atom a))
  | .seq _ _ items => some items
  | .dict _ entries => some (entries.map (·.1))
  | .object _ name core attributes =>
    match classes.iterationOf (.declared name) with
    | .nothing => some []
    | .attribute source => (attributes.lookup source).bind further
    | .impossible => none
    | .inherent =>
      if classes.isModel (.declared name) then
        some ((attributes.filter fun entry => !isHiddenName entry.1).map fun (name, v) =>
          .seq none .tuple [.atom (.str name), v])
      else partsOf? core

/-- What a value yields, with a bound on how far methods of declared classes lead. -/
def yieldedWithin (classes : Classes) : (depth : Nat) → Value → Option (List Value)
  | 0 => classes.yieldedBy fun _ => none
  | depth + 1 => classes.yieldedBy (classes.yieldedWithin depth)

/-- What a value yields, if it can be iterated.  A method leads to a value inside the one that it
is called on. -/
def yielded? (classes : Classes) (v : Value) : Option (List Value) :=
  classes.yieldedWithin v.depth v

end Classes

end Memberwise
