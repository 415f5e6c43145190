import Mathlib
import Memberwise.Proofs.Conversion.Instance
import Memberwise.Proofs.Conversion.Outcome
import Memberwise.Proofs.Number.Decimal
import Memberwise.Proofs.Number.Rounding

/-! # Conversions between numbers and their texts

A number that is converted into a text and back is the same number, and an integer becomes the same
decimal number directly and by way of its text.  Binary and decimal numbers become the integers
nearest to what they denote.
-/

namespace Memberwise

/-- Whether an atom is a binary or a decimal number. -/
def Atom.isFractional : Atom → Bool
  | .float _ | .decimal _ => true
  | _ => false

/-- The rational that a binary or decimal number denotes, if it is finite. -/
def Atom.toRat? : Atom → Option ℚ
  | .float x => x.toRat?
  | .decimal d => d.toRat?
  | _ => Option.none

namespace Conversion

variable {classes : Classes} {known : SchemaCache} {v : Value} {a : Atom}

theorem scalarKind?_builtin (classes : Classes) (kind : ScalarKind) :
    classes.scalarKind? (.builtin kind.builtin) = some kind := by
  have hempty : Classes.scalarKind? [] (.builtin kind.builtin) = some kind := by
    cases kind <;> decide
  exact hempty

/-! ## Texts of numbers -/

theorem convertWith_int_str {n : Int} (h : digitCount n.natAbs ≤ digitLimit) :
    convertWith classes known (.atom (.int n)) (.builtin .str) =
      .ok (.atom (.str (String.ofList (integerText n)))) := by
  have htext : toText (.int n) = .ok (.str (String.ofList (integerText n))) := by
    have hfew : integerText? n = some (integerText n) := if_pos h
    simp only [toText, hfew]
  refine
    (convertWith_scalar (scalarKind?_builtin classes .str) (a := .int n) rfl rfl known).trans ?_
  simp only [convertScalar, htext]

theorem convertWith_int_decimal (n : Int) :
    convertWith classes known (.atom (.int n)) (.builtin .decimal) =
      .ok (.atom (.decimal (.ofInt n))) :=
  convertWith_scalar (scalarKind?_builtin classes .decimal) (a := .int n) rfl rfl known

theorem convertWith_decimal_str (d : Decimal) :
    convertWith classes known (.atom (.decimal d)) (.builtin .str) =
      .ok (.atom (.str (String.ofList d.text))) :=
  convertWith_scalar (scalarKind?_builtin classes .str) (a := .decimal d) rfl rfl known

theorem convertWith_str_int {n : Int} (h : digitCount n.natAbs ≤ digitLimit) :
    convertWith classes known (.atom (.str (String.ofList (integerText n)))) (.builtin .int) =
      .ok (.atom (.int n)) := by
  have hread : intOfText (String.ofList (integerText n)) = .ok n := by
    simp only [intOfText, String.toList_ofList, (isSolid_integerText n).trim_eq,
      readInteger_integerText h]
  refine (convertWith_scalar (scalarKind?_builtin classes .int) rfl rfl known).trans ?_
  simp only [convertScalar, toInt, hread, Except.map]

theorem convertWith_str_decimal {d : Decimal} (h : d.IsInRange) :
    convertWith classes known (.atom (.str (String.ofList d.text))) (.builtin .decimal) =
      .ok (.atom (.decimal d)) := by
  have hread : decimalOfText (String.ofList d.text).toList = .ok d := by
    simp only [decimalOfText, String.toList_ofList, (Decimal.isSolid_text d).trim_eq,
      Decimal.read_text h]
  refine (convertWith_scalar (scalarKind?_builtin classes .decimal) rfl rfl known).trans ?_
  simp only [convertScalar, toDecimal, hread, Except.map]

theorem convertWith_decimal_int (n : Int) :
    convertWith classes known (.atom (.decimal (.ofInt n))) (.builtin .int) =
      .ok (.atom (.int n)) := by
  have hround : roundDecimal (.ofInt n) = .ok n := by
    have hexact : Decimal.round (n < 0) n.natAbs 0 = n := by
      simp [Decimal.round, signed_natAbs]
    exact congrArg Except.ok hexact
  refine (convertWith_scalar (scalarKind?_builtin classes .int) rfl rfl known).trans ?_
  simp only [convertScalar, toInt, hround, Except.map]

/-- An integer is written like the decimal number without places that is equal to it. -/
theorem text_ofInt (n : Int) : (Decimal.ofInt n).text = integerText n := by
  have hpositional : (0 : Int) ≤ 0 ∧ -6 ≤ Decimal.adjusted n.natAbs 0 := by
    unfold Decimal.adjusted
    omega
  have hmagnitude : Decimal.magnitudeText n.natAbs 0 = naturalText n.natAbs := by
    simp only [Decimal.magnitudeText, if_pos hpositional, Int.natAbs_zero, if_true]
  rw [integerText_eq, ← hmagnitude]
  rfl

theorem isInRange_ofInt {n : Int} (h : digitCount n.natAbs ≤ digitLimit) :
    (Decimal.ofInt n).IsInRange := by
  have hdigits : digitCount n.natAbs ≤ 4300 := h
  have hleading : Decimal.adjusted n.natAbs 0 ≤ 999999999999999999 := by
    unfold Decimal.adjusted
    omega
  exact ⟨hleading, by decide⟩

/-- Numbers return from their texts as they were.  An integer of at most as many digits as are read
returns as an integer, and as the decimal number that it becomes directly; an integer of any size
returns from its decimal number; and a decimal number, also an infinite one and one that stands for
no number, returns with its sign, coefficient and exponent, or its kind and payload. -/
theorem convertWith_number_roundTrip (classes : Classes) (known known' : SchemaCache) :
    (∀ n : Int, digitCount n.natAbs ≤ digitLimit → ∃ s d,
      convertWith classes known (.atom (.int n)) (.builtin .str) = .ok (.atom (.str s)) ∧
      convertWith classes known' (.atom (.str s)) (.builtin .int) = .ok (.atom (.int n)) ∧
      convertWith classes known (.atom (.int n)) (.builtin .decimal) = .ok (.atom (.decimal d)) ∧
      convertWith classes known' (.atom (.str s)) (.builtin .decimal) =
        .ok (.atom (.decimal d))) ∧
    (∀ n : Int, ∃ d,
      convertWith classes known (.atom (.int n)) (.builtin .decimal) = .ok (.atom (.decimal d)) ∧
      convertWith classes known' (.atom (.decimal d)) (.builtin .int) = .ok (.atom (.int n))) ∧
    ∀ d : Decimal, d.IsInRange → ∃ s,
      convertWith classes known (.atom (.decimal d)) (.builtin .str) = .ok (.atom (.str s)) ∧
      convertWith classes known' (.atom (.str s)) (.builtin .decimal) =
        .ok (.atom (.decimal d)) := by
  refine ⟨fun n hn => ?_, fun n => ?_, fun d hd => ?_⟩
  · have hdecimal : convertWith classes known' (.atom (.str (String.ofList (integerText n))))
        (.builtin .decimal) = .ok (.atom (.decimal (.ofInt n))) := by
      rw [← text_ofInt]
      exact convertWith_str_decimal (isInRange_ofInt hn)
    exact ⟨_, _, convertWith_int_str hn, convertWith_str_int hn, convertWith_int_decimal n,
      hdecimal⟩
  · exact ⟨_, convertWith_int_decimal n, convertWith_decimal_int n⟩
  · exact ⟨_, convertWith_decimal_str d, convertWith_str_decimal hd⟩

/-- An integer, and a small negative number with a zero at its end that is kept. -/
theorem convertWith_number_roundTrip_small :
    digitCount (-12 : Int).natAbs ≤ digitLimit ∧ (Decimal.finite true 120 (-9)).IsInRange ∧
      convertWith [] .empty (.atom (.str "-12")) (.builtin .int) = .ok (.atom (.int (-12))) ∧
      convertWith [] .empty (.atom (.str "-1.20E-7")) (.builtin .decimal) =
        .ok (.atom (.decimal (.finite true 120 (-9)))) := by
  have hfew : digitCount (-12 : Int).natAbs ≤ digitLimit := by decide
  have hrange : (Decimal.finite true 120 (-9)).IsInRange := by decide
  obtain ⟨hint, -, hdecimal⟩ := convertWith_number_roundTrip [] .empty .empty
  obtain ⟨s, _, hs, hread, -, -⟩ := hint (-12) hfew
  obtain ⟨t, ht, hreads⟩ := hdecimal _ hrange
  have hs' : convertWith [] .empty (.atom (.int (-12))) (.builtin .str) =
      .ok (.atom (.str "-12")) := by cbv
  have ht' : convertWith [] .empty (.atom (.decimal (.finite true 120 (-9)))) (.builtin .str) =
      .ok (.atom (.str "-1.20E-7")) := by cbv
  rw [hs'] at hs
  rw [ht'] at ht
  cases hs
  cases ht
  exact ⟨hfew, hrange, hread, hreads⟩

/-! ## Nearest integers -/

/-- Whether a value is a given binary or decimal number, or an instance of a class that extends
the class of these. -/
structure IsFraction (classes : Classes) (v : Value) (a : Atom) : Prop where
  scalar : classes.scalarIn? v = some a
  fractional : a.isFractional = true
  noInteger : classes.isInstance v (.builtin .int) = false

theorem isFraction_atom (h : a.isFractional = true) : IsFraction classes (.atom a) a := by
  cases a with
  | float | decimal => exact ⟨rfl, rfl, rfl⟩
  | _ => cases h

theorem toInt_of_toRat? {x : ℚ} (h : a.toRat? = some x) :
    ∃ n, toInt a = .ok (.int n) ∧ IsNearestEven x n := by
  cases a with
  | float value =>
      cases value with
      | finite negative significand exponent =>
          cases h
          exact ⟨_, rfl, Binary64.isNearestEven_round negative significand exponent⟩
      | infinity | nan => cases h
  | decimal value =>
      cases value with
      | finite negative coefficient exponent =>
          cases h
          exact ⟨_, rfl, Decimal.isNearestEven_round negative coefficient exponent⟩
      | infinity | nan => cases h
  | _ => cases h

theorem toInt_of_toRat?_none (ha : a.isFractional = true) (h : a.toRat? = none) :
    ∃ reason, toInt a = .error reason := by
  cases a with
  | float value =>
      cases value with
      | finite => cases h
      | infinity | nan => exact ⟨_, rfl⟩
  | decimal value =>
      cases value with
      | finite => cases h
      | infinity | nan => exact ⟨_, rfl⟩
  | _ => cases ha

theorem convertWith_fraction (hv : IsFraction classes v a) (known : SchemaCache) :
    convertWith classes known v (.builtin .int) =
      match toInt a with
      | .ok result => .ok (.atom result)
      | .error reason => .error (classes.conversionFault v (.builtin .int) (.stated reason)) := by
  have hnot : isConverted classes v (.builtin .int) = false := by
    unfold isConverted
    dsimp only [TypeExpr.plainClass?]
    split
    · rfl
    · exact hv.noInteger
  exact convertWith_scalar (scalarKind?_builtin classes .int) hv.scalar hnot known

theorem isNearestEven_of_convertWith {x : ℚ} {n : Int} (hv : IsFraction classes v a)
    (hx : a.toRat? = some x)
    (hn : convertWith classes known v (.builtin .int) = .ok (.atom (.int n))) :
    IsNearestEven x n := by
  obtain ⟨m, hm, hnear⟩ := toInt_of_toRat? hx
  rw [convertWith_fraction hv, hm] at hn
  cases hn
  exact hnear

/-- A finite number becomes the one integer that is nearest to what it denotes, the even one of two
that are equally near.  An infinity or what stands for no number fails with the fault of a
conversion; only an instance of a class that extends numbers may fail at being shown.  So larger
numbers become larger integers or the same, and numbers that denote the same become the same,
whatever their representations. -/
theorem convertWith_nearestEven (classes : Classes) (known known' : SchemaCache) {v : Value}
    {a : Atom} (hv : IsFraction classes v a) :
    (∀ x, a.toRat? = some x → ∃ n,
      convertWith classes known v (.builtin .int) = .ok (.atom (.int n)) ∧
        ∀ m, IsNearestEven x m ↔ m = n) ∧
    (a.toRat? = none → ∃ fault, convertWith classes known v (.builtin .int) = .error fault ∧
      (fault.isConversion = true ∨ v ≠ .atom a ∧ unshown? classes v = some fault)) ∧
    ∀ u b x y n m, IsFraction classes u b → a.toRat? = some x → b.toRat? = some y →
      convertWith classes known v (.builtin .int) = .ok (.atom (.int n)) →
      convertWith classes known' u (.builtin .int) = .ok (.atom (.int m)) →
      (x ≤ y → n ≤ m) ∧ (x = y → n = m) := by
  refine ⟨fun x hx => ?_, fun hnone => ?_, fun u b x y n m hu hx hy hn hm => ?_⟩
  · obtain ⟨n, hn, hnear⟩ := toInt_of_toRat? hx
    refine ⟨n, by rw [convertWith_fraction hv, hn], fun m => ⟨fun hm => hm.unique hnear, ?_⟩⟩
    rintro rfl
    exact hnear
  · obtain ⟨reason, hreason⟩ := toInt_of_toRat?_none hv.fractional hnone
    refine ⟨_, by rw [convertWith_fraction hv, hreason], ?_⟩
    rcases conversionFault_eq classes v (.builtin .int) (.stated reason) with
      ⟨shown, -, -, heq⟩ | hunshown
    · exact .inl (by rw [heq]; rfl)
    · refine .inr ⟨?_, hunshown⟩
      rintro rfl
      have hplain : IsPlainAtom a := by
        have hfractional := hv.fractional
        cases a with
        | float | decimal => trivial
        | _ => cases hfractional
      rw [unshown?_eq_none (.atom rfl hplain)] at hunshown
      cases hunshown
  · have hnear := isNearestEven_of_convertWith hv hx hn
    have hnear' := isNearestEven_of_convertWith hu hy hm
    refine ⟨fun hxy => hnear.mono hxy hnear', ?_⟩
    rintro rfl
    exact hnear.unique hnear'

/-- The half between two and three, as a decimal number with a zero at its end and as a binary
number, with a minus. -/
theorem convertWith_nearestEven_half :
    IsFraction [] (.atom (.decimal (.finite true 250 (-2)))) (.decimal (.finite true 250 (-2))) ∧
      convertWith [] .empty (.atom (.decimal (.finite true 250 (-2)))) (.builtin .int) =
        .ok (.atom (.int (-2))) ∧
      convertWith [] .empty (.atom (.float (.finite true (5 * 2 ^ 50) (-51) (by decide))))
        (.builtin .int) = .ok (.atom (.int (-2))) := by
  have hdecimal : IsFraction [] (.atom (.decimal (.finite true 250 (-2))))
      (.decimal (.finite true 250 (-2))) := isFraction_atom rfl
  have hbinary : IsFraction [] (.atom (.float (.finite true (5 * 2 ^ 50) (-51) (by decide))))
      (.float (.finite true (5 * 2 ^ 50) (-51) (by decide))) := isFraction_atom rfl
  obtain ⟨hfirst, -, hagree⟩ := convertWith_nearestEven [] .empty .empty hdecimal
  obtain ⟨n, hn, hnearest⟩ := hfirst _ rfl
  obtain ⟨m, hm, -⟩ := (convertWith_nearestEven [] .empty .empty hbinary).1 _ rfl
  have htwo : IsNearestEven
      (if true then -((250 : ℕ) * 10 ^ (-2 : ℤ)) else (250 : ℕ) * 10 ^ (-2 : ℤ)) (-2) :=
    .of_even (by norm_num [abs_le]) (by decide)
  obtain rfl : -2 = n := (hnearest (-2)).mp htwo
  have hsame : -2 = m := by
    refine (hagree _ _ _ _ _ _ hbinary rfl rfl hn hm).2 ?_
    norm_num
  exact ⟨hdecimal, hn, hsame ▸ hm⟩

end Conversion

end Memberwise
