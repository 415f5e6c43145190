import Memberwise.Class.Fields
import Memberwise.TypeExpr.Build

/-! # Texts of type expressions

An annotation may be given as a text, which is read when hints are asked for.  Most texts are
names.  Others apply a type to arguments, put bars between types, or ask a class for something
that it holds.  A text of any other form counts as malformed: literals other than whole numbers,
calls and calculations are not carried out here.
-/

namespace Memberwise

/-- Why a text is no type. -/
inductive TextFault where
  /-- A name in it stands for nothing. -/
  | unresolved (name : String)
  /-- Reading it raises something else, told by its class. -/
  | raised (kind : String)
deriving DecidableEq, Repr

/-- A text as it is built. -/
inductive Source where
  | named (name : String)
  | number (n : Nat)
  | ellipsis
  | attribute (owner : Source) (name : String)
  | subscript (head : Source) (args : List Source)
  | bars (left right : Source)

namespace Source

/-- A piece of a text: a word, a mark, or what stands in no type expression. -/
inductive Piece where
  | word (letters : List Char)
  | mark (c : Char)
  | blank
  | foreign
deriving DecidableEq

def isLetter (c : Char) : Bool := c.isAlphanum || c == '_' || 128 ≤ c.toNat

/-- Adds a character in front of the pieces of the text behind it. -/
def addPiece (c : Char) (pieces : List Piece) : List Piece :=
  if isLetter c then
    match pieces with
    | .word letters :: rest => .word (c :: letters) :: rest
    | pieces => .word [c] :: pieces
  else if c == ' ' then .blank :: pieces
  else if ['[', ']', ',', '.', '|'].contains c then .mark c :: pieces
  else .foreign :: pieces

def pieces (text : List Char) : List Piece := text.foldr addPiece []

/-- The words that stand for no name.  Those for the truth values and the absent value do. -/
def reserved : List String := [
  "and", "as", "assert", "async", "await", "break", "class", "continue", "def", "del", "elif",
  "else", "except", "finally", "for", "from", "global", "if", "import", "in", "is", "lambda",
  "nonlocal", "not", "or", "pass", "raise", "return", "try", "while", "with", "yield"]

def ofWord? (letters : List Char) : Option Source :=
  if letters.all Char.isDigit then some (.number (letters.foldl (fun n c => 10 * n + (c.toNat - 48)) 0))
  else if letters.head?.any Char.isDigit || reserved.contains (String.ofList letters) then none
  else some (.named (String.ofList letters))

mutual

/-- Types with bars between them. -/
def union? : (fuel : Nat) → List Piece → Option (Source × List Piece)
  | 0, _ => none
  | fuel + 1, pieces => do
    let (first, rest) ← primary? fuel pieces
    furtherBars? fuel first rest

def furtherBars? : (fuel : Nat) → Source → List Piece → Option (Source × List Piece)
  | 0, _, _ => none
  | fuel + 1, left, .mark '|' :: rest => do
    let (right, rest) ← primary? fuel rest
    furtherBars? fuel (.bars left right) rest
  | _ + 1, left, rest => some (left, rest)

def primary? : (fuel : Nat) → List Piece → Option (Source × List Piece)
  | 0, _ => none
  | fuel + 1, .word letters :: rest => do further? fuel (← ofWord? letters) rest
  | _ + 1, .mark '.' :: .mark '.' :: .mark '.' :: rest => some (.ellipsis, rest)
  | _ + 1, _ => none

/-- What is asked of a type, and the arguments that it is applied to. -/
def further? : (fuel : Nat) → Source → List Piece → Option (Source × List Piece)
  | 0, _, _ => none
  | fuel + 1, head, .mark '.' :: .word letters :: rest =>
    match ofWord? letters with
    | some (.named name) => further? fuel (.attribute head name) rest
    | _ => none
  | fuel + 1, head, .mark '[' :: rest => do
    let (args, rest) ← arguments? fuel rest
    further? fuel (.subscript head args) rest
  | _ + 1, head, rest => some (head, rest)

def arguments? : (fuel : Nat) → List Piece → Option (List Source × List Piece)
  | 0, _ => none
  | fuel + 1, pieces => do
    match ← union? fuel pieces with
    | (arg, .mark ']' :: rest) | (arg, .mark ',' :: .mark ']' :: rest) => some ([arg], rest)
    | (arg, .mark ',' :: rest) => do
      let (args, rest) ← arguments? fuel rest
      some (arg :: args, rest)
    | _ => none

end

/-- A text as it is built, unless it is malformed.  No piece is read by more than four of the
readers above. -/
def parse? (text : String) : Option Source :=
  let found := pieces text.toList
  if found.head? == some .blank then none
  else
    let found := found.filter (· != .blank)
    match union? (4 * (found.length + 1)) found with
    | some (source, []) => some source
    | _ => none

end Source

/-- The type that a name stands for; the name itself where it stands for none. -/
def Classes.typeOfName (classes : Classes) (name : String) : Except TextFault TypeExpr :=
  if (classes.find? name).isSome then .ok (.cls (.declared name))
  else
    match Builtin.ofGlobalName? name with
    | some b => .ok (.builtin b)
    | none => .error (.unresolved name)

/-- The member of an enumeration that a class holds under a name. -/
def Classes.memberHeldBy? (classes : Classes) (name : String) : ClassRef → Option Atom
  | .builtin _ => none
  | .declared owner =>
    if (classes.membersOf owner).any (·.1 == name) then
      some (.member owner (classes.canonicalMember owner name))
    else none

/-- What a class holds under a name, in the place of a type.  A text that is held so is not read
again. -/
def Classes.typeHeldBy (classes : Classes) (name : String) : TypeExpr → Except TextFault TypeExpr
  | .cls c =>
    match classes.memberHeldBy? name c, classes.binding? c name with
    | some held, _ => .ok (.value (.atom held))
    | none, some (.constant (.atom (.classRef held))) => .ok (.cls held)
    | none, some (.constant v) => .ok (.value v)
    | none, some _ => .ok (.value Classes.descriptor)
    | none, none => .error (.raised "AttributeError")
  | _ => .error (.raised "AttributeError")

namespace Source

/-- What the names of the absent value and of the truth values stand for. -/
def truthOf? (name : String) : Option Atom :=
  [("None", .none), ("True", .bool true), ("False", .bool false)].lookup name

def orMismatch : Option TypeExpr → Except TextFault TypeExpr
  | some t => .ok t
  | none => .error (.raised "TypeError")

mutual

/-- The type that a text stands for. -/
def eval (classes : Classes) : Source → Except TextFault TypeExpr
  | .named name =>
    match truthOf? name with
    | some a => .ok (.value (.atom a))
    | none => classes.typeOfName name
  | .number n => .ok (.value (.atom (.int n)))
  | .ellipsis => .ok .ellipsis
  | .attribute owner name => do classes.typeHeldBy name (← eval classes owner)
  | .subscript head args => do
    let head ← eval classes head
    let args ← evalAll classes args
    orMismatch (TypeExpr.applyTo? classes head args)
  | .bars left right => do
    let left ← eval classes left
    let right ← eval classes right
    orMismatch (TypeExpr.barUnionOf? left right)

def evalAll (classes : Classes) : List Source → Except TextFault (List TypeExpr)
  | [] => .ok []
  | source :: rest => do
    let t ← eval classes source
    let types ← evalAll classes rest
    .ok (t :: types)

end

end Source

/-- The type that a text stands for, the absent value standing for its type.  What may not stand
where a type may is refused. -/
def Classes.typeOfText (classes : Classes) (text : String) : Except TextFault TypeExpr :=
  match Source.parse? text with
  | none => .error (.raised "SyntaxError")
  | some source => do
    match ← source.eval classes with
    | .value (.atom .none) => .ok .noneType
    | t => if t.isAnnotatable then .ok t else .error (.raised "TypeError")

/-- Texts that are no types, and what they are refused with. -/
example : ["list[", "int.missing", "int[3]", "Missing"].map (fun text =>
    match Classes.typeOfText [] text with
    | .ok _ => none
    | .error fault => some fault) =
    [some (.raised "SyntaxError"), some (.raised "AttributeError"), some (.raised "TypeError"),
      some (.unresolved "Missing")] := by decide +kernel

end Memberwise
