/-! # Blank characters

Two sets of blank characters are trimmed from text.  The Unicode property `White_Space` is
what a schema trims; readers of numbers and dates trim the four information separators too.
-/

namespace Memberwise.Text

/-- The Unicode property `White_Space`. -/
def isWhiteSpace (c : Char) : Bool :=
  let code := c.toNat
  (9 ≤ code ∧ code ≤ 13) || code == 32 || code == 0x85 || code == 0xA0 || code == 0x1680 ||
    (0x2000 ≤ code ∧ code ≤ 0x200A) || code == 0x2028 || code == 0x2029 || code == 0x202F ||
    code == 0x205F || code == 0x3000

/-- White space or one of the information separators from file to unit. -/
def isBlank (c : Char) : Bool :=
  isWhiteSpace c || (0x1C ≤ c.toNat ∧ c.toNat ≤ 0x1F)

theorem isBlank_of_isWhiteSpace {c : Char} (h : isWhiteSpace c) : isBlank c := by
  simp [isBlank, h]

/-- Drops the characters of a class from both ends. -/
def trimBy (p : Char → Bool) (text : List Char) : List Char :=
  ((text.dropWhile p).reverse.dropWhile p).reverse

abbrev trim (text : List Char) : List Char := trimBy isBlank text

theorem trimBy_eq_self {p : Char → Bool} {text : List Char}
    (first : ∀ c, text.head? = some c → p c = false)
    (last : ∀ c, text.getLast? = some c → p c = false) : trimBy p text = text := by
  have drop_eq : ∀ l : List Char, (∀ c, l.head? = some c → p c = false) → l.dropWhile p = l := by
    intro l h
    cases l with
    | nil => rfl
    | cons c r => simp [h c rfl]
  unfold trimBy
  rw [drop_eq text first, drop_eq text.reverse (by simpa using last), List.reverse_reverse]

end Memberwise.Text
