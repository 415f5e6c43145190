import Memberwise.Text.CompatibilityTable
import Memberwise.Text.CompositionTable
import Memberwise.Text.Fold

/-! # Normal form of names

Names that look alike are one name: a character that stands for others is replaced by them,
and a base with its marks is composed as far as there are composed characters.
-/

namespace Memberwise.Text

/-- The order of a combining mark; other characters have order zero. -/
def markOrder (code : Nat) : Nat :=
  ((markOrders.find? fun (first, last, _) => first ≤ code ∧ code ≤ last).map (·.2.2)).getD 0

/-- The character composed of a base and a mark. -/
def composed? (base mark : Nat) : Option Nat :=
  (compositions.lookup mark).bind (·.lookup base)

/-- The base and the mark of a composed character. -/
def parts? (code : Nat) : Option (Nat × Nat) :=
  compositions.findSome? fun (mark, pairs) =>
    (pairs.find? (·.2 == code)).map fun pair => (pair.1, mark)

/-- A character without composition.  No character has more than four marks. -/
def decompose : (depth : Nat) → Nat → List Nat
  | 0, code => [code]
  | depth + 1, code =>
    match parts? code with
    | some (base, mark) => decompose depth base ++ [mark]
    | none => [code]

/-- Puts a mark into its place behind others; marks of one order keep theirs. -/
def insertMark (mark : Nat) : List Nat → List Nat
  | [] => [mark]
  | last :: rest =>
    if markOrder mark < markOrder last then last :: insertMark mark rest
    else mark :: last :: rest

/-- The characters of a text, last first, with marks in order. -/
def orderMarks (reversed : List Nat) (code : Nat) : List Nat :=
  if markOrder code = 0 then code :: reversed
  else
    let marks := reversed.takeWhile fun c => markOrder c != 0
    insertMark code marks ++ reversed.drop marks.length

/-- What has been composed so far: the text before the last base, that base, and the marks
behind it that stay, last first. -/
structure Composing where
  before : List Nat
  base : Option Nat
  marks : List Nat

/-- Adds a character: a mark joins the base unless a mark of its order stands between them. -/
def Composing.add (s : Composing) (code : Nat) : Composing :=
  let order := markOrder code
  let isBlocked :=
    match s.marks with
    | [] => false
    | last :: _ => order ≤ markOrder last
  match s.base.bind fun base => if isBlocked then none else composed? base code with
  | some joined => { s with base := some joined }
  | none =>
    if order = 0 then ⟨s.marks ++ s.base.toList ++ s.before, some code, []⟩
    else { s with marks := code :: s.marks }

/-- The normal form of the characters of a name. -/
def normalCodes (codes : List Nat) : List Nat :=
  let ordered := ((codes.flatMap (decompose 4)).foldl orderMarks []).reverse
  let s := ordered.foldl Composing.add ⟨[], none, []⟩
  (s.marks ++ s.base.toList ++ s.before).reverse

/-- The normal form of a name. -/
def normal (name : String) : String :=
  if name.toList.all fun c => c.toNat < 128 then name
  else
    let plain := name.toList.flatMap (mapCase compatibilityRuns compatibilityExpansions)
    String.ofList ((normalCodes (plain.map Char.toNat)).map Char.ofNat)

end Memberwise.Text
