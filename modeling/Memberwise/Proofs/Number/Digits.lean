import Mathlib.Data.List.Basic
import Memberwise.Number.Decimal
import Memberwise.Text.Blank

/-! # Digits as text

A run of digits is read as the number that it denotes, up to the first character that is no digit.
So the text of a number is read back as that number, also with zeros put in front of it or cut in
two by a point.
-/

namespace Memberwise

/-- The number that each character of a run of digits stands for. -/
def digitsOf (text : List Char) : List Nat := text.map fun c => c.toNat - 48

/-- Whether a text consists of digits. -/
def IsDigits (text : List Char) : Prop := ∀ c ∈ text, c.isDigit = true

/-- Whether a text has no digit at its head. -/
def StopsDigits (text : List Char) : Prop := ∀ c, text.head? = some c → Text.digitValue? c = none

variable {l m rest : List Char} {c : Char} {n : Nat}

theorem toNat_of_isDigit (h : c.isDigit = true) : 48 ≤ c.toNat ∧ c.toNat ≤ 57 := by
  simpa [Char.isDigit, UInt32.le_iff_toNat_le] using h

theorem digitValue?_of_isDigit (h : c.isDigit = true) :
    Text.digitValue? c = some (c.toNat - 48) := by
  have hrange := toNat_of_isDigit h
  have hascii : c.toNat < 128 := by omega
  simp only [Text.digitValue?, if_pos hascii, if_pos hrange]

theorem isBlank_of_isDigit (h : c.isDigit = true) : Text.isBlank c = false := by
  have hrange := toNat_of_isDigit h
  simp only [Text.isBlank, Text.isWhiteSpace, Bool.or_eq_false_iff, decide_eq_false_iff_not,
    beq_eq_false_iff_ne]
  omega

/-! ## Runs of digits -/

theorem IsDigits.append (hl : IsDigits l) (hm : IsDigits m) : IsDigits (l ++ m) := by
  intro c hc
  rcases List.mem_append.mp hc with hc | hc
  · exact hl c hc
  · exact hm c hc

theorem isDigits_naturalText (n : Nat) : IsDigits (naturalText n) := fun _ hc =>
  Nat.isDigit_of_mem_toDigits (by decide) (by decide) hc

theorem isDigits_zeros (n : Nat) : IsDigits (List.replicate n '0') := by
  intro c hc
  rw [List.eq_of_mem_replicate hc]
  rfl

/-- Digits are read as the number that they denote. -/
theorem ofDigits_digitsOf (l : List Char) : ofDigits (digitsOf l) = Nat.ofDigitChars 10 l 0 := by
  rw [ofDigits, digitsOf, List.foldl_map, Nat.ofDigitChars_eq_foldl]
  rfl

theorem ofDigits_naturalText (n : Nat) : ofDigits (digitsOf (naturalText n)) = n := by
  rw [ofDigits_digitsOf]
  exact Nat.ofDigitChars_ten_toDigits

theorem digitsOf_append (l m : List Char) : digitsOf (l ++ m) = digitsOf l ++ digitsOf m :=
  List.map_append

/-- Zeros in front of digits do not count. -/
theorem ofDigits_zeros_append (k : Nat) (l : List Char) :
    ofDigits (digitsOf (List.replicate k '0' ++ l)) = ofDigits (digitsOf l) := by
  rw [ofDigits_digitsOf, ofDigits_digitsOf, Nat.ofDigitChars_append,
    Nat.ofDigitChars_replicate_zero, Nat.mul_zero]

theorem naturalText_eq_cons (n : Nat) :
    ∃ c others, naturalText n = c :: others ∧ c.isDigit = true := by
  cases htext : naturalText n with
  | nil => exact absurd htext Nat.toDigits_ne_nil
  | cons c others => exact ⟨c, others, rfl, isDigits_naturalText n c (by simp [htext])⟩

/-! ## Readers of digits -/

theorem takeDigits_append (hl : IsDigits l) (hrest : StopsDigits rest) :
    takeDigits (l ++ rest) = (digitsOf l, rest) := by
  induction l with
  | nil =>
      cases rest with
      | nil => rfl
      | cons c others => simp [takeDigits, hrest c rfl, digitsOf]
  | cons c others ih =>
      have hc := digitValue?_of_isDigit (hl c List.mem_cons_self)
      have hothers := ih fun d hd => hl d (List.mem_cons_of_mem c hd)
      rw [List.cons_append, takeDigits, hc, hothers]
      rfl

theorem takeDigits_eq (hl : IsDigits l) : takeDigits l = (digitsOf l, []) := by
  simpa using takeDigits_append hl (nofun : StopsDigits [])

theorem scanDigits_eq (hl : IsDigits l) : scanDigits false l = some (digitsOf l, []) := by
  induction l with
  | nil => rfl
  | cons c others ih =>
      have hc := digitValue?_of_isDigit (hl c List.mem_cons_self)
      have hothers := ih fun d hd => hl d (List.mem_cons_of_mem c hd)
      rw [scanDigits, hc, hothers]
      rfl

/-! ## Signs -/

/-- The sign of a number that is written only for negative numbers. -/
def signText (negative : Bool) : List Char := if negative then ['-'] else []

theorem scanSign_of_isDigit (h : c.isDigit = true) (rest : List Char) :
    scanSign (c :: rest) = (false, c :: rest) := by
  unfold scanSign
  split
  · rename_i heq
    cases heq
    cases h
  · rename_i heq
    cases heq
    cases h
  · rfl

theorem scanSign_signText (negative : Bool) (h : c.isDigit = true) (rest : List Char) :
    scanSign (signText negative ++ c :: rest) = (negative, c :: rest) := by
  cases negative with
  | false => exact scanSign_of_isDigit h rest
  | true => rfl

/-! ## Integers -/

theorem integerText_eq (n : Int) : integerText n = signText (n < 0) ++ naturalText n.natAbs := by
  unfold integerText signText
  by_cases h : n < 0 <;> simp [h]

/-- The text of an integer of few enough digits is read back as that integer. -/
theorem readInteger_integerText {n : Int} (h : digitCount n.natAbs ≤ digitLimit) :
    readInteger (integerText n) = .ok n := by
  obtain ⟨c, others, htext, hc⟩ := naturalText_eq_cons n.natAbs
  have hsign : scanSign (integerText n) = (decide (n < 0), naturalText n.natAbs) := by
    rw [integerText_eq, htext]
    exact scanSign_signText _ hc others
  have hhead : ((naturalText n.natAbs).head? == some '_') = false := by
    rw [htext]
    have hne : c ≠ '_' := by
      rintro rfl
      cases hc
    simpa using hne
  have hlength : (digitsOf (naturalText n.natAbs)).length = digitCount n.natAbs := List.length_map _
  have hnonempty : (digitsOf (naturalText n.natAbs)).isEmpty = false := by
    rw [htext]
    rfl
  unfold readInteger
  simp only [hsign, hhead, scanDigits_eq (isDigits_naturalText n.natAbs), hlength, hnonempty,
    Nat.not_lt.mpr h, Bool.false_eq_true, if_false, List.isEmpty_nil, Bool.not_true, Bool.or_false,
    ofDigits_naturalText]
  exact congrArg Except.ok (signed_natAbs n)

end Memberwise
