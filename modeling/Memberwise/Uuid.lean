/-! # Universally unique identifiers

Identifiers are numbers of 128 bits, written with 32 hexadecimal digits in five groups.
-/

namespace Memberwise.Uuid

def hexValue? (c : Char) : Option Nat :=
  let code := c.toNat
  if 48 ≤ code ∧ code ≤ 57 then some (code - 48)
  else if 97 ≤ code ∧ code ≤ 102 then some (code - 87)
  else if 65 ≤ code ∧ code ≤ 70 then some (code - 55)
  else none

/-- The number that hexadecimal digits denote. -/
def ofHex? (text : List Char) : Option Nat :=
  text.foldlM (fun value c => (hexValue? c).map (16 * value + ·)) 0

def hex (n : Nat) : List Char :=
  (List.range 32).reverse.map fun place => (n / Nat.pow 16 place % 16).digitChar

theorem length_hex (n : Nat) : (hex n).length = 32 := by
  simp [hex]

/-- The digits of an identifier in groups of 8, 4, 4, 4 and 12. -/
def text (n : Nat) : List Char :=
  let digits := hex n
  let group (start size : Nat) := (digits.drop start).take size
  group 0 8 ++ '-' :: group 8 4 ++ '-' :: group 12 4 ++ '-' :: group 16 4 ++ '-' :: group 20 12

/-- Whether hyphens stand exactly where they stand between the groups. -/
def isGrouped (text : List Char) : Bool :=
  text.length == 36 &&
    (List.range 36).all fun i =>
      (text.getD i ' ' == '-') == (i == 8 || i == 13 || i == 18 || i == 23)

/-- Reads 32 digits, bare or in groups. -/
def readPlain? (text : List Char) : Option Nat :=
  if text.length = 32 then ofHex? text
  else if isGrouped text then ofHex? (text.filter (· != '-'))
  else none

/-- Reads an identifier: bare digits, grouped digits, grouped digits in braces, or grouped
digits behind a name for identifiers. -/
def read? (text : List Char) : Option Nat :=
  match readPlain? text with
  | some n => some n
  | none =>
    let inner :=
      if text.head? = some '{' ∧ text.getLast? = some '}' then some (text.drop 1).dropLast
      else if "urn:uuid:".toList.isPrefixOf text then some (text.drop 9)
      else none
    inner.bind fun body => if isGrouped body then readPlain? body else none

/-- Reads an identifier leniently: braces, prefixes and hyphens are dropped wherever they
stand. -/
def readLoose? (text : String) : Option Nat :=
  let bare := ((text.replace "urn:" "").replace "uuid:" "").toList
  let inner := bare.filter fun c => c != '-' && c != '\x7b' && c != '\x7d'
  if inner.length = 32 then ofHex? inner else none

def bytes (n : Nat) : List UInt8 :=
  (List.range 16).reverse.map fun place => UInt8.ofNat (n / Nat.pow 256 place % 256)

def ofBytes? (content : List UInt8) : Option Nat :=
  if content.length = 16 then
    some (content.foldl (fun value byte => 256 * value + byte.toNat) 0)
  else none

end Memberwise.Uuid
