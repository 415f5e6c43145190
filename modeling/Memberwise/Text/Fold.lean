import Memberwise.Text.FoldTable
import Memberwise.Text.UpperTable

/-! # Case mappings

Full case folding, by which member names are compared, and the full upper case mapping.
Both are data of the character database applied character by character.
-/

namespace Memberwise.Text

/-- The shift of the first run that holds a code point, if any does. -/
def shiftIn (runs : List (Nat × Nat × Nat × Int)) (code : Nat) : Option Int :=
  (runs.find? fun (first, last, step, _) =>
    first ≤ code ∧ code ≤ last ∧ (code - first) % step = 0).map (·.2.2.2)

/-- The image of a character under a mapping given by runs and expansions. -/
def mapCase (runs : List (Nat × Nat × Nat × Int)) (expansions : List (Nat × List Nat))
    (c : Char) : List Char :=
  match expansions.lookup c.toNat with
  | some codes => codes.map Char.ofNat
  | none =>
    match shiftIn runs c.toNat with
    | some shift => [Char.ofNat (c.toNat + shift).toNat]
    | none => [c]

def foldChar (c : Char) : List Char :=
  if c.toNat < 128 then [c.toLower] else mapCase foldRuns foldExpansions c

/-- Case folding of a text: two texts that differ in case only have the same folding. -/
def fold (text : String) : String := String.ofList (text.toList.flatMap foldChar)

def upperChar (c : Char) : List Char :=
  if c.toNat < 128 then [c.toUpper] else mapCase upperRuns upperExpansions c

def upper (text : String) : String := String.ofList (text.toList.flatMap upperChar)

end Memberwise.Text
