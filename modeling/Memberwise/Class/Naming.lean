import Memberwise.Class.Declaration
import Memberwise.Text.Normal

/-! # Names in a class body

A class keeps the names of its body in normal form, so that names that look alike are one.
A name with two leading underscores is private to the class and is kept with the name of the
class before it; a name that also ends in two underscores is no private one.
-/

namespace Memberwise

/-- Whether a name is private to the class that it stands in. -/
def isPrivateName (name : List Char) : Bool :=
  ['_', '_'].isPrefixOf name && !(['_', '_'].isSuffixOf name)

/-- The name under which a class keeps a name.  A class whose own name has nothing but
underscores has no private names. -/
def privateName (owner name : String) : String :=
  match owner.toList.dropWhile (· == '_') with
  | [] => name
  | stem =>
    if isPrivateName name.toList then String.ofList ('_' :: stem ++ name.toList) else name

/-- The name that a class keeps for a name of its body. -/
def keptName (owner name : String) : String := privateName owner (Text.normal name)

namespace Parameter

def rename (f : String → String) (p : Parameter) : Parameter := { p with name := f p.name }

end Parameter

namespace Initializer

/-- Direct stores name their attributes by text, which is kept as it is. -/
def rename (f : String → String) (i : Initializer) : Initializer where
  parameters := i.parameters.map (·.rename f)
  forwards := i.forwards.map (·.map f)
  stores := i.stores.map fun (kept, given) => (f kept, f given)
  directStores := i.directStores.map fun (kept, given) => (kept, f given)
  mentions := i.mentions.map f

end Initializer

def GetterBody.rename (f : String → String) : GetterBody → GetterBody
  | .attribute name => .attribute (f name)
  | body => body

def SetterBody.rename (f : String → String) : SetterBody → SetterBody
  | .attribute name => .attribute (f name)
  | body => body

/-- An alias of a field is a text and is kept as it is. -/
def Entry.rename (f : String → String) : Entry → Entry
  | .field a => .field { a with name := f a.name }
  | .attribute name v => .attribute (f name) v
  | .method name => .method (f name)
  | .iteration source => .iteration (f source)
  | .hidden name v => .hidden (f name) v
  | .property name getter setter =>
    .property (f name) (getter.map fun g => { g with body := g.body.rename f })
      (setter.map fun s => { s with body := s.body.rename f })
  | .maker m => .maker { m with parameters := m.parameters.map (·.rename f) }

/-- A declaration with the names that the class keeps.  Slots are named by text, of which only
the private names change. -/
def ClassDecl.withKeptNames (c : ClassDecl) : ClassDecl :=
  { c with
    slots := c.slots.map (·.map (privateName c.name))
    body := c.body.map (·.rename (keptName c.name))
    init := c.init.map (·.rename (keptName c.name)) }

end Memberwise
