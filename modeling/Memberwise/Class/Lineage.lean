import Memberwise.Class.Declaration

/-! # Lines of descent

A class inherits from its lineage: itself, then its ancestors, so ordered that every class
stands before its own ancestors and the bases of a class keep their order.  The lineage is
merged from the lineages of the bases, each step taking the first head that is in no tail.
-/

namespace Memberwise.Lineage

/-- The first head of the candidate lines that is in no tail. -/
def choose (lines : List (List ClassRef)) : Option ClassRef :=
  (lines.filterMap List.head?).find? fun c => lines.all fun line => !line.tail.contains c

/-- Takes a chosen class off the lines that it heads and forgets empty lines. -/
def advance (c : ClassRef) (lines : List (List ClassRef)) : List (List ClassRef) :=
  (lines.map fun line => if line.head? = some c then line.tail else line).filter (!·.isEmpty)

/-- Merges lines with a bound on the number of steps. -/
def mergeWithin : (fuel : Nat) → List (List ClassRef) → Option (List ClassRef)
  | 0, lines => if lines.all List.isEmpty then some [] else none
  | fuel + 1, lines =>
    if lines.all List.isEmpty then some []
    else
      (choose lines).bind fun c => (mergeWithin fuel (advance c lines)).map (c :: ·)

/-- Merges lines; every step takes at least one class off them. -/
def merge (lines : List (List ClassRef)) : Option (List ClassRef) :=
  mergeWithin ((lines.map List.length).foldr (· + ·) 0) lines

end Memberwise.Lineage
