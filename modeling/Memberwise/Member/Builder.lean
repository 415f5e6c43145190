import Memberwise.Member

/-! # Collection builders

How a collection of a declared type is built: in a collection that can grow, which is then
finished.  Interfaces are built as lists or sets, fixed collections are finished at the end.
-/

namespace Memberwise

/-- What becomes of a collection when all elements are in it. -/
inductive Finish where
  | asIs
  | tuple
  | frozenset
deriving DecidableEq, Repr

/-- How a collection is built: the class of what grows, and how it is finished. -/
structure Builder where
  create : ClassRef
  finish : Finish
deriving DecidableEq, Repr

namespace Builder

def listOrigins : List Builtin := [
  .list, .iterable, .collection, .reversible, .sequence, .mutableSequence]

def setOrigins : List Builtin := [.set, .abstractSet, .mutableSet]

def list : Builder := ⟨.builtin .list, .asIs⟩

def set : Builder := ⟨.builtin .set, .asIs⟩

/-- The builder for a class of collections, if it can be filled. -/
def ofOrigin? (classes : Classes) (origin : ClassRef) : Option Builder :=
  if listOrigins.any (origin == .builtin ·) then some list
  else if setOrigins.any (origin == .builtin ·) then some set
  else if origin == .builtin .tuple then some ⟨.builtin .list, .tuple⟩
  else if origin == .builtin .frozenset then some ⟨.builtin .set, .frozenset⟩
  else if !classes.isAbstract origin &&
      (classes.hasMember origin "append" || classes.hasMember origin "add") then
    some ⟨origin, .asIs⟩
  else none

def ofMember (classes : Classes) (m : Member) : Except ConfigurationFault Builder :=
  match m.underlying.genericOrigin?.bind (ofOrigin? classes) with
  | some builder => .ok builder
  | none => .error (.noBuilder m.name (classes.renderType m.declared))

end Builder

end Memberwise
