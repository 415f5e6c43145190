import Memberwise.Text.Printable

/-! # Quoted text

How text and bytes are written between quotes: a single quote unless the content has a single
quote and no double one, a backslash escape for what is not printable, all else as it is.
-/

namespace Memberwise.Text

/-- The low `width` hexadecimal digits of a number. -/
def hexDigits (width n : Nat) : List Char :=
  (List.range width).reverse.map fun place => (n / Nat.pow 16 place % 16).digitChar

theorem length_hexDigits (width n : Nat) : (hexDigits width n).length = width := by
  simp [hexDigits]

/-- The shortest numeric escape that holds a code point. -/
def numericEscape (code : Nat) : List Char :=
  if code < 0x100 then ['\\', 'x'] ++ hexDigits 2 code
  else if code < 0x10000 then ['\\', 'u'] ++ hexDigits 4 code
  else ['\\', 'U'] ++ hexDigits 8 code

/-- The quote that needs the fewest escapes, single for preference. -/
def chooseQuote (hasSingle hasDouble : Bool) : Char :=
  if hasSingle && !hasDouble then '"' else '\''

/-- One character between quotes. -/
def escapeChar (quote c : Char) : List Char :=
  if c == quote || c == '\\' then ['\\', c]
  else if c == '\n' then ['\\', 'n']
  else if c == '\r' then ['\\', 'r']
  else if c == '\t' then ['\\', 't']
  else if isPrintable c then [c]
  else numericEscape c.toNat

/-- Text between quotes. -/
def quoted (text : List Char) : List Char :=
  let quote := chooseQuote (text.contains '\'') (text.contains '"')
  quote :: text.flatMap (escapeChar quote) ++ [quote]

/-- One byte between quotes: printable ASCII stands for itself. -/
def escapeByte (quote : Char) (byte : UInt8) : List Char :=
  let c := Char.ofNat byte.toNat
  if c == quote || c == '\\' then ['\\', c]
  else if c == '\n' then ['\\', 'n']
  else if c == '\r' then ['\\', 'r']
  else if c == '\t' then ['\\', 't']
  else if 32 ≤ byte.toNat ∧ byte.toNat < 127 then [c]
  else ['\\', 'x'] ++ hexDigits 2 byte.toNat

/-- Bytes between quotes, marked by a leading `b`. -/
def quotedBytes (bytes : List UInt8) : List Char :=
  let quote := chooseQuote (bytes.contains 39) (bytes.contains 34)
  'b' :: quote :: bytes.flatMap (escapeByte quote) ++ [quote]

def quote (text : String) : String := String.ofList (quoted text.toList)

end Memberwise.Text
