import Memberwise.Proofs.Number.Digits

/-! # Decimal numbers as text

The text of a decimal number is read back as the same representation of it: sign, coefficient and
exponent of a finite number, sign of an infinity, and sign, kind and payload of a not-a-number.
-/

namespace Memberwise

variable {l m rest : List Char} {c : Char}

/-! ## Characters of numbers -/

/-- Whether no character of a text is blank or an underscore, so that readers drop none. -/
def IsSolid (text : List Char) : Prop := ∀ c ∈ text, Text.isBlank c = false ∧ c ≠ '_'

instance (text : List Char) : Decidable (IsSolid text) :=
  decidable_of_iff (text.all fun c => !Text.isBlank c && c != '_') (by simp [IsSolid])

theorem IsSolid.append (hl : IsSolid l) (hm : IsSolid m) : IsSolid (l ++ m) := by
  intro c hc
  rcases List.mem_append.mp hc with hc | hc
  · exact hl c hc
  · exact hm c hc

theorem IsSolid.cons (hc : Text.isBlank c = false ∧ c ≠ '_') (hl : IsSolid l) :
    IsSolid (c :: l) := by
  intro d hd
  rcases List.mem_cons.mp hd with rfl | hd
  · exact hc
  · exact hl d hd

theorem IsDigits.isSolid (hl : IsDigits l) : IsSolid l := by
  intro c hc
  have hdigit := hl c hc
  refine ⟨isBlank_of_isDigit hdigit, ?_⟩
  rintro rfl
  cases hdigit

theorem IsSolid.trim_eq (hl : IsSolid l) : Text.trim l = l :=
  Text.trimBy_eq_self (fun c hc => (hl c (List.mem_of_mem_head? hc)).1)
    fun c hc => (hl c (List.mem_of_mem_getLast? hc)).1

theorem IsSolid.filter_eq (hl : IsSolid l) : l.filter (· != '_') = l :=
  List.filter_eq_self.mpr fun c hc => by simpa using (hl c hc).2

theorem isSolid_signText (negative : Bool) : IsSolid (signText negative) := by
  cases negative <;> decide

theorem isSolid_integerText (n : Int) : IsSolid (integerText n) := by
  rw [integerText_eq]
  exact (isSolid_signText _).append (isDigits_naturalText _).isSolid

theorem toLower_of_isDigit (h : c.isDigit = true) : c.toLower = c := by
  have hrange := toNat_of_isDigit h
  refine dif_neg fun hupper => ?_
  have hletter : 65 ≤ c.toNat := UInt32.le_iff_toNat_le.mp hupper.1
  omega

/-- Digits have no case. -/
theorem lowerAscii_of_isDigits (hl : IsDigits l) : lowerAscii l = l := by
  have hmap : lowerAscii l = l.map id :=
    List.map_congr_left fun c hc => toLower_of_isDigit (hl c hc)
  rw [hmap, List.map_id]

/-! ## Numerals -/

theorem stopsDigits_cons (h : Text.digitValue? c = none) (l : List Char) :
    StopsDigits (c :: l) := by
  intro d hd
  cases hd
  exact h

/-- A numeral without a point is read as a whole number with an exponent. -/
theorem readNumeral?_whole (negative : Bool) (hl : IsDigits l) (hne : l ≠ [])
    (hrest : StopsDigits rest) (hpoint : rest.head? ≠ some '.') :
    readNumeral? negative (l ++ rest) =
      (readExponent? rest).map fun e => ⟨negative, digitsOf l, e⟩ := by
  have hnonempty : (digitsOf l).isEmpty = false := by
    cases l with
    | nil => exact absurd rfl hne
    | cons => rfl
  unfold readNumeral?
  rw [takeDigits_append hl hrest]
  dsimp only
  split
  · exact absurd rfl hpoint
  · simp [hnonempty]

/-- The digits behind a point lower the exponent by their number. -/
theorem readNumeral?_point (negative : Bool) (hl : IsDigits l) (hne : l ≠ []) (hm : IsDigits m)
    (hrest : StopsDigits rest) :
    readNumeral? negative (l ++ '.' :: (m ++ rest)) =
      (readExponent? rest).map fun e => ⟨negative, digitsOf (l ++ m), e - m.length⟩ := by
  have hnonempty : (digitsOf l).isEmpty = false := by
    cases l with
    | nil => exact absurd rfl hne
    | cons => rfl
  have hlength : (digitsOf m).length = m.length := List.length_map _
  have hfraction := takeDigits_append hm hrest
  unfold readNumeral?
  rw [takeDigits_append hl (stopsDigits_cons (by decide) _)]
  simp [hfraction, hnonempty, hlength, digitsOf_append]

/-- An exponent as it is written is read back. -/
theorem readExponent?_exponentText (e : Int) :
    readExponent? ('E' :: Decimal.exponentText e) = some e := by
  obtain ⟨c, others, htext, hc⟩ := naturalText_eq_cons e.natAbs
  have hsign : scanSign (Decimal.exponentText e) = (decide (e < 0), naturalText e.natAbs) := by
    unfold Decimal.exponentText
    by_cases h : e < 0 <;> simp [h, scanSign]
  have hdigits : takeDigits (naturalText e.natAbs) =
      ((c.toNat - 48) :: digitsOf others, []) := by
    rw [takeDigits_eq (isDigits_naturalText e.natAbs), htext]
    rfl
  have hvalue : ofDigits ((c.toNat - 48) :: digitsOf others) = e.natAbs := by
    have hread := ofDigits_naturalText e.natAbs
    rwa [htext] at hread
  simp [readExponent?, hsign, hdigits, hvalue, signed_natAbs]

namespace Decimal

variable {coefficient : Nat} {exponent : Int}

/-! ## Finite numbers -/

theorem magnitudeText_eq_cons (coefficient : Nat) (exponent : Int) :
    ∃ c others, magnitudeText coefficient exponent = c :: others ∧ c.isDigit = true := by
  obtain ⟨c, others, htext, hc⟩ := naturalText_eq_cons coefficient
  unfold magnitudeText
  rw [htext]
  dsimp only
  split
  · split
    · exact ⟨c, others, rfl, hc⟩
    · split
      · rename_i hplaces
        obtain ⟨k, hk⟩ : ∃ k, (c :: others).length - exponent.natAbs = k + 1 :=
          ⟨_, (Nat.succ_pred_eq_of_pos (Nat.sub_pos_of_lt hplaces)).symm⟩
        rw [hk]
        exact ⟨c, _, rfl, hc⟩
      · exact ⟨'0', _, rfl, rfl⟩
  · exact ⟨c, _, rfl, hc⟩

/-- Digits with a point among them are read as the number without it. -/
theorem readNumeral?_positional (negative : Bool) (hl : IsDigits l) (hne : l ≠ [])
    (hm : IsDigits m) :
    readNumeral? negative (l ++ '.' :: m) = some ⟨negative, digitsOf (l ++ m), -m.length⟩ := by
  have hread := readNumeral?_point negative hl hne hm (nofun : StopsDigits [])
  rw [List.append_nil] at hread
  rw [hread, readExponent?, Option.map_some, Int.zero_sub]

/-- A point behind the first of several digits, and an exponent. -/
theorem readNumeral?_scientific (negative : Bool) (hl : IsDigits (c :: l)) (e : Int) :
    readNumeral? negative (c :: (if l.isEmpty then [] else '.' :: l) ++ 'E' :: exponentText e) =
      some ⟨negative, digitsOf (c :: l), e - l.length⟩ := by
  have hc : IsDigits [c] := fun d hd => hl d (by simp_all)
  have hstops : StopsDigits ('E' :: exponentText e) := stopsDigits_cons (by decide) _
  cases l with
  | nil =>
      have hread := readNumeral?_whole negative hc (by simp) hstops (by simp)
      simpa [readExponent?_exponentText] using hread
  | cons d l =>
      have hl : IsDigits (d :: l) := fun x hx => hl x (List.mem_cons_of_mem c hx)
      have hread := readNumeral?_point negative hc (by simp) hl hstops
      simpa [readExponent?_exponentText] using hread

/-- The digits of a coefficient are read back with the exponent that places the point. -/
theorem readNumeral?_magnitudeText (negative : Bool) (coefficient : Nat) (exponent : Int) :
    ∃ digits, readNumeral? negative (magnitudeText coefficient exponent) =
      some ⟨negative, digits, exponent⟩ ∧ ofDigits digits = coefficient := by
  have hdigits := isDigits_naturalText coefficient
  have hvalue := ofDigits_naturalText coefficient
  have hcount : digitCount coefficient = (naturalText coefficient).length := rfl
  obtain ⟨c, others, htext, -⟩ := naturalText_eq_cons coefficient
  unfold magnitudeText adjusted
  rw [hcount]
  generalize naturalText coefficient = text at *
  subst htext
  dsimp only
  split
  · split
    · rename_i hwhole
      have hread := readNumeral?_whole negative hdigits (by simp) (nofun : StopsDigits [])
        nofun
      rw [List.append_nil] at hread
      exact ⟨_, by rw [hread, Int.natAbs_eq_zero.mp hwhole]; rfl, hvalue⟩
    · split
      · rename_i hplaces
        generalize hcut : (c :: others).length - exponent.natAbs = cut
        have hread := readNumeral?_positional negative
          (l := (c :: others).take cut) (m := (c :: others).drop cut)
          (fun d hd => hdigits d (List.mem_of_mem_take hd)) (by simp; omega)
          (fun d hd => hdigits d (List.mem_of_mem_drop hd))
        rw [List.take_append_drop, List.length_drop] at hread
        have hexponent : -(((c :: others).length - cut : Nat) : Int) = exponent := by omega
        exact ⟨_, by rw [hread, hexponent], hvalue⟩
      · generalize hzeros : exponent.natAbs - (c :: others).length = zeros
        have hread := readNumeral?_positional negative (isDigits_zeros 1) (by simp)
          ((isDigits_zeros zeros).append hdigits)
        rw [List.length_append, List.length_replicate] at hread
        have hexponent : -((zeros + (c :: others).length : Nat) : Int) = exponent := by omega
        refine ⟨_, hread.trans (by rw [hexponent]), ?_⟩
        exact (ofDigits_zeros_append (zeros + 1) _).trans hvalue
  · have hread := readNumeral?_scientific negative hdigits
      (exponent + ((c :: others).length - 1 : Nat))
    have hexponent : exponent + ((c :: others).length - 1 : Nat) - others.length = exponent := by
      simp
    rw [hexponent] at hread
    exact ⟨_, hread, hvalue⟩

theorem isSolid_magnitudeText (coefficient : Nat) (exponent : Int) :
    IsSolid (magnitudeText coefficient exponent) := by
  have hdigits := isDigits_naturalText coefficient
  have hpoint : Text.isBlank '.' = false ∧ '.' ≠ '_' := by decide
  have hmark : Text.isBlank 'E' = false ∧ 'E' ≠ '_' := by decide
  have hexponent : ∀ e, IsSolid (exponentText e) := by
    intro e
    have hsign : Text.isBlank (if e < 0 then '-' else '+') = false ∧
        (if e < 0 then '-' else '+') ≠ '_' := by
      split <;> decide
    exact .cons hsign (isDigits_naturalText e.natAbs).isSolid
  unfold magnitudeText
  dsimp only
  split
  · split
    · exact hdigits.isSolid
    · split
      · exact IsSolid.append (fun c hc => hdigits.isSolid c (List.mem_of_mem_take hc))
          (.cons hpoint fun c hc => hdigits.isSolid c (List.mem_of_mem_drop hc))
      · exact .cons (by decide) (.cons hpoint ((isDigits_zeros _).append hdigits).isSolid)
  · split
    · exact nofun
    · rename_i first others htext
      rw [htext] at hdigits
      have hfirst := hdigits.isSolid first List.mem_cons_self
      have hothers : IsSolid others := fun c hc =>
        hdigits.isSolid c (List.mem_cons_of_mem first hc)
      refine .cons hfirst (.append ?_ (.cons hmark (hexponent _)))
      split
      · exact nofun
      · exact .cons hpoint hothers

/-! ## Words -/

/-- A number that starts with a digit is none of the words for special values. -/
theorem afterWord?_of_isDigit (hc : c.isDigit = true) {d : Char} (hd : d.isDigit = false)
    (word text : List Char) : afterWord? (d :: word) (c :: text) = none := by
  have hne : (d == c) = false := by
    refine beq_eq_false_iff_ne.mpr ?_
    rintro rfl
    rw [hc] at hd
    cases hd
  simp [afterWord?, List.isPrefixOf, hne]

theorem afterWord?_append (word text : List Char) :
    afterWord? word (word ++ text) = some text := by
  simp [afterWord?]

theorem readPayload?_of_isDigits (hl : IsDigits l) :
    readPayload? l = some (ofDigits (digitsOf l)) := by
  rw [readPayload?, takeDigits_eq hl]

/-! ## All numbers -/

/-- The exponents that decimal numbers have: not too large for the leading digit, and not too
small for the last one. -/
def IsInRange : Decimal → Prop
  | .finite _ coefficient exponent =>
    adjusted coefficient exponent ≤ maxExponent ∧ minExponent ≤ exponent
  | _ => True

instance (d : Decimal) : Decidable d.IsInRange := by
  cases d <;> unfold IsInRange <;> infer_instance

/-- What is read has an exponent in the range. -/
theorem isInRange_of_read {text : List Char} {d : Decimal} (h : read text = .ok d) :
    d.IsInRange := by
  unfold read at h
  dsimp only at h
  split at h
  · cases h
    trivial
  · split at h
    · split at h
      · cases h
        trivial
      · cases h
    · split at h
      · cases h
        trivial
      · cases h
    · split at h
      · cases h
      · split at h
        · rename_i hrange
          cases h
          exact hrange
        · cases h

theorem isSolid_text (d : Decimal) : IsSolid d.text := by
  cases d with
  | finite negative coefficient exponent =>
      exact (isSolid_signText negative).append (isSolid_magnitudeText coefficient exponent)
  | infinity negative =>
      exact (isSolid_signText negative).append (by decide)
  | nan negative signalling payload =>
      have hkind : IsSolid (if signalling then ['s'] else []) := by
        cases signalling <;> decide
      have hpayload : IsSolid (if payload = 0 then [] else naturalText payload) := by
        split
        · exact nofun
        · exact (isDigits_naturalText payload).isSolid
      exact (((isSolid_signText negative).append hkind).append (by decide)).append hpayload

theorem read_finite (negative : Bool) {coefficient : Nat} {exponent : Int}
    (h : (finite negative coefficient exponent).IsInRange) :
    read (finite negative coefficient exponent).text =
      .ok (.finite negative coefficient exponent) := by
  obtain ⟨c, others, hmagnitude, hc⟩ := magnitudeText_eq_cons coefficient exponent
  obtain ⟨digits, hnumeral, hdigits⟩ := readNumeral?_magnitudeText negative coefficient exponent
  have hsign : scanSign ((finite negative coefficient exponent).text.filter (· != '_')) =
      (negative, magnitudeText coefficient exponent) := by
    rw [(isSolid_text _).filter_eq, hmagnitude]
    show scanSign (signText negative ++ magnitudeText coefficient exponent) = _
    rw [hmagnitude]
    exact scanSign_signText negative hc others
  have hlower : lowerAscii (magnitudeText coefficient exponent) = c :: lowerAscii others := by
    rw [hmagnitude]
    exact congrArg (· :: lowerAscii others) (toLower_of_isDigit hc)
  have hletter : ∀ word : List Char, (c :: lowerAscii others == 'i' :: word) = false := by
    intro word
    refine beq_eq_false_iff_ne.mpr fun heq => ?_
    cases heq
    cases hc
  have hinfinite : (lowerAscii (magnitudeText coefficient exponent) == "inf".toList ||
      lowerAscii (magnitudeText coefficient exponent) == "infinity".toList) = false := by
    rw [hlower, Bool.or_eq_false_iff]
    exact ⟨hletter _, hletter _⟩
  have hnan : afterWord? "nan".toList (lowerAscii (magnitudeText coefficient exponent)) = none := by
    rw [hlower]
    exact afterWord?_of_isDigit hc rfl _ _
  have hsnan :
      afterWord? "snan".toList (lowerAscii (magnitudeText coefficient exponent)) = none := by
    rw [hlower]
    exact afterWord?_of_isDigit hc rfl _ _
  unfold read
  rw [hsign]
  simp only [hinfinite, hnan, hsnan, hnumeral, hdigits, Bool.false_eq_true, if_false]
  exact if_pos h

theorem read_infinity (negative : Bool) :
    read (infinity negative).text = .ok (.infinity negative) := by
  cases negative <;> rfl

theorem read_nan (negative signalling : Bool) (payload : Nat) :
    read (nan negative signalling payload).text = .ok (.nan negative signalling payload) := by
  obtain ⟨digits, hdigits, hvalue, htext⟩ : ∃ digits, IsDigits digits ∧
      ofDigits (digitsOf digits) = payload ∧ (nan negative signalling payload).text =
        signText negative ++ (if signalling then ['s'] else []) ++ "NaN".toList ++ digits := by
    by_cases hzero : payload = 0
    · exact ⟨[], nofun, hzero.symm, by simp only [text, signText, hzero, if_true]⟩
    · exact ⟨naturalText payload, isDigits_naturalText payload, ofDigits_naturalText payload,
        by simp only [text, signText, hzero, if_false]⟩
  have hpayload : readPayload? digits = some payload := by
    rw [readPayload?_of_isDigits hdigits, hvalue]
  have hlower : lowerAscii digits = digits := lowerAscii_of_isDigits hdigits
  unfold read
  rw [(isSolid_text _).filter_eq, htext]
  cases signalling with
  | false =>
      have hsign : scanSign (signText negative ++ [] ++ "NaN".toList ++ digits) =
          (negative, 'N' :: 'a' :: 'N' :: digits) := by cases negative <;> rfl
      have hword : lowerAscii ('N' :: 'a' :: 'N' :: digits) = "nan".toList ++ digits :=
        congrArg ("nan".toList ++ ·) hlower
      have hinfinite : ("nan".toList ++ digits == "inf".toList ||
          "nan".toList ++ digits == "infinity".toList) = false := rfl
      simp only [Bool.false_eq_true, if_false, hsign, hword, hinfinite, afterWord?_append, hpayload]
  | true =>
      have hsign : scanSign (signText negative ++ ['s'] ++ "NaN".toList ++ digits) =
          (negative, 's' :: 'N' :: 'a' :: 'N' :: digits) := by cases negative <;> rfl
      have hword : lowerAscii ('s' :: 'N' :: 'a' :: 'N' :: digits) = "snan".toList ++ digits :=
        congrArg ("snan".toList ++ ·) hlower
      have hinfinite : ("snan".toList ++ digits == "inf".toList ||
          "snan".toList ++ digits == "infinity".toList) = false := rfl
      have hquiet : afterWord? "nan".toList ("snan".toList ++ digits) = none := rfl
      simp only [if_true, hsign, hword, hinfinite, hquiet, afterWord?_append, hpayload,
        Bool.false_eq_true, if_false]

/-- The text of a decimal number is read back as the same representation. -/
theorem read_text {d : Decimal} (h : d.IsInRange) : read d.text = .ok d := by
  cases d with
  | finite negative coefficient exponent => exact read_finite negative h
  | infinity negative => exact read_infinity negative
  | nan negative signalling payload => exact read_nan negative signalling payload

/-- There are just the decimal numbers that can be read. -/
theorem isInRange_iff {d : Decimal} : d.IsInRange ↔ ∃ text, read text = .ok d :=
  ⟨fun h => ⟨d.text, read_text h⟩, fun ⟨_, h⟩ => isInRange_of_read h⟩

end Decimal

end Memberwise
