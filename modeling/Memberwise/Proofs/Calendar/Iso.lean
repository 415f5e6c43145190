import Mathlib.Algebra.Group.Nat.Defs
import Memberwise.Calendar.Iso
import Memberwise.Proofs.Number.Digits

/-! # Moments as text

The text of a moment is read back as the same moment if its offset has no fraction of a second.
The writer leaves out a fraction that is zero, and the seconds of an offset that are zero, and the
reader tells what is left by its length and by the marks between the parts.
-/

namespace Memberwise

variable {l m : List Char} {c : Char} {n width : Nat}

/-! ## Texts of dates and times -/

theorem isDigits_padded (width n : Nat) : IsDigits (padded width n) :=
  (isDigits_zeros _).append (isDigits_naturalText n)

theorem length_padded (hwidth : 0 < width) (h : n < 10 ^ width) :
    (padded width n).length = width := by
  have hfits : (naturalText n).length ≤ width :=
    (Nat.length_toDigits_le_iff (by decide) hwidth).mpr h
  simp only [padded, List.length_append, List.length_replicate]
  omega

theorem padded_ne_nil (width n : Nat) : padded width n ≠ [] := by
  have hdigits : naturalText n ≠ [] := Nat.toDigits_ne_nil
  simp [padded, hdigits]

theorem ofDigitChars_padded (width n : Nat) : Nat.ofDigitChars 10 (padded width n) 0 = n := by
  rw [padded, Nat.ofDigitChars_append, Nat.ofDigitChars_replicate_zero, Nat.mul_zero]
  exact Nat.ofDigitChars_ten_toDigits

/-- The characters of a time of day: digits and the marks between them. -/
def IsClockChar (c : Char) : Prop := c.isDigit = true ∨ c = ':' ∨ c = '.'

/-- The characters of dates, times of day and offsets. -/
def IsStampChar (c : Char) : Prop := IsClockChar c ∨ c = '-' ∨ c = '+'

theorem IsStampChar.plain (h : IsStampChar c) : Text.isBlank c = false ∧ c.toNat < 128 := by
  rcases h with (hdigit | rfl | rfl) | rfl | rfl
  · have hrange := toNat_of_isDigit hdigit
    exact ⟨isBlank_of_isDigit hdigit, by omega⟩
  all_goals decide

theorem isClockChar_padded : ∀ c ∈ padded width n, IsClockChar c := fun c hc =>
  .inl (isDigits_padded width n c hc)

theorem isClockChar_fractionText : ∀ c ∈ fractionText n, IsClockChar c := by
  unfold fractionText
  split
  · exact nofun
  · exact List.forall_mem_cons.mpr ⟨.inr (.inr rfl), isClockChar_padded⟩

theorem clockText_eq (hour minute second micros : Nat) : clockText hour minute second micros =
    padded 2 hour ++
      ':' :: (padded 2 minute ++ ':' :: (padded 2 second ++ fractionText micros)) := by
  simp [clockText]

theorem isClockChar_clockText (hour minute second micros : Nat) :
    ∀ c ∈ clockText hour minute second micros, IsClockChar c := by
  have hcolon : IsClockChar ':' := .inr (.inl rfl)
  rw [clockText_eq]
  simp only [List.forall_mem_append, List.forall_mem_cons]
  exact ⟨isClockChar_padded, hcolon, isClockChar_padded, hcolon, isClockChar_padded,
    isClockChar_fractionText⟩

theorem Date.text_eq (date : Date) : date.text =
    padded 4 date.year ++ '-' :: (padded 2 date.month ++ '-' :: padded 2 date.day) := by
  simp [Date.text]

/-- The parts of a day have at most as many digits as are written. -/
theorem Date.digits_le (date : Date) :
    date.year < 10 ^ 4 ∧ date.month < 10 ^ 2 ∧ date.day < 10 ^ 2 := by
  obtain ⟨⟨-, hyear⟩, ⟨-, hmonth⟩, -, hday⟩ := date.valid
  have hdays : daysInMonth date.year date.month ≤ 31 := by
    unfold daysInMonth
    repeat' split
    all_goals omega
  omega

theorem Date.length_text (date : Date) : date.text.length = 10 := by
  obtain ⟨hyear, hmonth, hday⟩ := date.digits_le
  rw [Date.text_eq]
  simp only [List.length_append, List.length_cons]
  rw [length_padded (by decide) hyear, length_padded (by decide) hmonth,
    length_padded (by decide) hday]

theorem Date.isStampChar_text (date : Date) : ∀ c ∈ date.text, IsStampChar c := by
  have hdash : IsStampChar '-' := .inr (.inl rfl)
  have hdigits : ∀ {width n : Nat}, ∀ c ∈ padded width n, IsStampChar c := fun c hc =>
    .inl (isClockChar_padded c hc)
  rw [Date.text_eq]
  simp only [List.forall_mem_append, List.forall_mem_cons]
  exact ⟨hdigits, hdash, hdigits, hdash, hdigits⟩

/-- Whether an offset is a whole number of seconds. -/
def Offset.IsWhole (offset : Offset) : Prop := offset.micros % 1000000 = 0

/-- The whole seconds of an offset, its sign left out. -/
def Offset.seconds (offset : Offset) : Nat := offset.micros.natAbs / 1000000

/-- An offset of whole seconds is written as a time of day without a fraction, from which seconds
that are zero are cut off. -/
theorem Offset.text_eq {offset : Offset} (h : offset.IsWhole) : offset.text =
    (if offset.micros < 0 then '-' else '+') ::
      if offset.seconds % 60 = 0 then
        padded 2 (offset.seconds / 3600) ++ ':' :: padded 2 (offset.seconds / 60 % 60)
      else
        clockText (offset.seconds / 3600) (offset.seconds / 60 % 60) (offset.seconds % 60) 0 := by
  have hfraction : offset.micros.natAbs % 1000000 = 0 := by
    have hwhole : offset.micros % 1000000 = 0 := h
    omega
  unfold Offset.text Offset.seconds
  simp only [hfraction, and_true]
  by_cases hseconds : offset.micros.natAbs / 1000000 % 60 = 0
  · simp [hseconds]
  · simp [hseconds, clockText]

namespace Iso

variable {rest : List Nat}

/-! ## Bytes of a text -/

/-- The codes of the characters of a text. -/
def codes (text : List Char) : List Nat := text.map Char.toNat

@[simp] theorem codes_append (l m : List Char) : codes (l ++ m) = codes l ++ codes m :=
  List.map_append

@[simp] theorem codes_cons (c : Char) (l : List Char) : codes (c :: l) = c.toNat :: codes l := rfl

@[simp] theorem length_codes (l : List Char) : (codes l).length = l.length := List.length_map _

theorem toList_loop (bytes : ByteArray) (i : Nat) (r : List UInt8) :
    ByteArray.toList.loop bytes i r = r.reverse ++ bytes.data.toList.drop i := by
  generalize hleft : bytes.size - i = left
  induction left generalizing i r with
  | zero =>
      have hend : ¬ i < bytes.size := by omega
      have hdrop : bytes.data.toList.drop i = [] :=
        List.drop_eq_nil_iff.mpr (Nat.not_lt.mp hend)
      rw [ByteArray.toList.loop, if_neg hend, hdrop, List.append_nil]
  | succ left ih =>
      have hmore : i < bytes.size := by omega
      have hhead : bytes.data.toList.drop i = bytes.get! i :: bytes.data.toList.drop (i + 1) := by
        have hlist : i < bytes.data.toList.length := hmore
        rw [List.drop_eq_getElem_cons hlist, Array.getElem_toList]
        exact congrArg (· :: _) (getElem!_pos bytes.data i hmore).symm
      rw [ByteArray.toList.loop, if_pos hmore, ih (i + 1) _ (by omega), hhead]
      simp

/-- A text of ASCII characters has a byte for each of them. -/
theorem bytes_eq_codes (h : ∀ c ∈ l, c.toNat < 128) :
    (Text.encodeUtf8 (String.ofList l)).map UInt8.toNat = codes l := by
  have hbytes : Text.encodeUtf8 (String.ofList l) = l.flatMap String.utf8EncodeChar := by
    show ByteArray.toList.loop (l.flatMap String.utf8EncodeChar).toByteArray 0 [] = _
    rw [toList_loop, List.toList_data_toByteArray]
    rfl
  rw [hbytes, codes]
  clear hbytes
  induction l with
  | nil => rfl
  | cons c l ih =>
      rw [List.forall_mem_cons] at h
      have hascii : c.val.toNat ≤ 127 := Nat.le_of_lt_succ h.1
      have hchar : String.utf8EncodeChar c = [UInt8.ofNat c.val.toNat] := by
        rw [String.utf8EncodeChar.eq_1, if_pos hascii]
      have hbyte : (UInt8.ofNat c.val.toNat).toNat = c.toNat := by
        rw [UInt8.toNat_ofNat']
        exact Nat.mod_eq_of_lt (by omega)
      rw [List.flatMap_cons, List.map_append, ih h.2, hchar, List.map_cons, List.map_cons, hbyte]
      rfl

theorem isDigit_toNat (h : c.isDigit = true) : isDigit c.toNat = true := by
  simpa [isDigit] using toNat_of_isDigit h

/-! ## Digits -/

theorem digits?_codes (hl : IsDigits l) (value : Nat) (rest : List Nat) :
    digits? l.length value (codes l ++ rest) = some (Nat.ofDigitChars 10 l value, rest) := by
  induction l generalizing value with
  | nil => rfl
  | cons c l ih =>
      have hc := isDigit_toNat (hl c List.mem_cons_self)
      have hothers := ih (fun d hd => hl d (List.mem_cons_of_mem c hd))
        (10 * value + (c.toNat - 48))
      simp only [codes_cons, List.cons_append, List.length_cons, digits?, hc, if_true, hothers]
      rfl

/-- A number of a fixed width is read back. -/
theorem digits?_padded (hwidth : 0 < width) (h : n < 10 ^ width) (rest : List Nat) :
    digits? width 0 (codes (padded width n) ++ rest) = some (n, rest) := by
  have hread := digits?_codes (isDigits_padded width n) 0 rest
  rwa [length_padded hwidth h, ofDigitChars_padded] at hread

theorem isDigit_peek (hl : IsDigits l) (hne : l ≠ []) (rest : List Nat) :
    isDigit (peek (codes l ++ rest)) = true := by
  cases l with
  | nil => exact absurd rfl hne
  | cons c l => exact isDigit_toNat (hl c List.mem_cons_self)

theorem isDigit_peek_padded (width n : Nat) (rest : List Nat) :
    isDigit (peek (codes (padded width n) ++ rest)) = true :=
  isDigit_peek (isDigits_padded width n) (padded_ne_nil width n) rest

/-! ## Days -/

theorem codes_dateText (date : Date) (rest : List Nat) : codes date.text ++ rest =
    codes (padded 4 date.year) ++
      45 :: (codes (padded 2 date.month) ++ 45 :: (codes (padded 2 date.day) ++ rest)) := by
  rw [Date.text_eq]
  simp only [codes_append, codes_cons, List.append_assoc, List.cons_append]
  rfl

/-- A day in the extended form ends behind ten bytes. -/
theorem separatorPlace?_text (date : Date) (rest : List Nat) :
    separatorPlace? (codes date.text ++ rest) = some 10 := by
  obtain ⟨hyear, -, -⟩ := date.digits_le
  have hlength : (codes date.text ++ rest).length ≠ 7 := by
    rw [List.length_append, length_codes, Date.length_text]
    omega
  have hyears : (codes (padded 4 date.year)).length = 4 := by
    rw [length_codes, length_padded (by decide) hyear]
  obtain ⟨byte, others, hmonths⟩ : ∃ byte others, codes (padded 2 date.month) = byte :: others :=
    List.exists_cons_of_ne_nil fun hnil => padded_ne_nil 2 date.month (List.map_eq_nil_iff.mp hnil)
  have hdigit : isDigit byte = true := by
    have hpeek := isDigit_peek_padded 2 date.month []
    rwa [hmonths] at hpeek
  rw [codes_dateText, hmonths] at hlength ⊢
  generalize codes (padded 4 date.year) = years at *
  obtain ⟨y₁, y₂, y₃, y₄, rfl⟩ : ∃ y₁ y₂ y₃ y₄, years = [y₁, y₂, y₃, y₄] := by
    match years, hyears with
    | [y₁, y₂, y₃, y₄], _ => exact ⟨y₁, y₂, y₃, y₄, rfl⟩
  have hmark : byte ≠ 87 := by
    rintro rfl
    cases hdigit
  unfold separatorPlace?
  dsimp only
  rw [if_neg hlength]
  simp [hmark]

theorem day?_text (date : Date) (rest : List Nat) :
    day? (codes date.text ++ rest) 10 = some (date.year, date.month, date.day) := by
  obtain ⟨hyear, hmonth, hday⟩ := date.digits_le
  have hlength : (codes date.text ++ rest).length - rest.length = 10 := by
    rw [List.length_append, length_codes, Date.length_text]
    omega
  rw [codes_dateText] at hlength ⊢
  have hdays := digits?_padded (by decide : 0 < 2) hday rest
  generalize hafter : 45 :: (codes (padded 2 date.day) ++ rest) = after at *
  have hmonths := digits?_padded (by decide : 0 < 2) hmonth after
  have hmark : ¬ (codes (padded 2 date.month) ++ after).headD 0 = 87 := by
    have hdigit := isDigit_peek_padded 2 date.month after
    intro heq
    rw [peek, heq] at hdigit
    cases hdigit
  have hyears := digits?_padded (by decide : 0 < 4) hyear
    (45 :: (codes (padded 2 date.month) ++ after))
  subst hafter
  simp only [day?, hyears, hmonths, hdays, Option.bind_eq_bind, Option.bind_some, peek,
    List.headD_cons, if_true, List.drop_succ_cons, List.drop_zero, if_neg hmark, hlength, ne_eq,
    not_true_eq_false, and_false, if_false]

/-! ## Times of day -/

/-- Up to six digits behind a point are read as microseconds. -/
theorem fraction?_padded {micros : Nat} (h : micros < 10 ^ 6) {rest : List Nat}
    (hrest : isDigit (peek rest) = false) :
    fraction? (codes (padded 6 micros) ++ rest) 6 = some (micros, decide (peek rest ≠ 0)) := by
  have hread := digits?_padded (by decide : 0 < 6) h rest
  have hdrop : rest.dropWhile isDigit = rest := by
    cases rest with
    | nil => rfl
    | cons byte others => exact List.dropWhile_cons_of_neg (by simpa [peek] using hrest)
  simp [fraction?, hread, hdrop]

/-- A time of day in the form with colons is read back, whatever follows it but a digit. -/
theorem parts?_clockText {hour minute second micros : Nat} (hhour : hour < 100)
    (hminute : minute < 100) (hsecond : second < 100) (hmicros : micros < 10 ^ 6)
    (hdigit : isDigit (peek rest) = false) :
    parts? 3 [] true (codes (clockText hour minute second micros) ++ rest)
      (clockText hour minute second micros).length =
        some ⟨hour, minute, second, micros, decide (peek rest ≠ 0)⟩ := by
  have hread := fun n (hn : n < 100) rest => digits?_padded (by decide : 0 < 2) hn rest
  have hlength := fun n (hn : n < 100) => length_padded (by decide : 0 < 2) hn
  rw [clockText_eq]
  by_cases hzero : micros = 0
  · simp [fractionText, hzero, parts?, hread, hlength, hhour, hminute, hsecond, peek]
  · have hfraction := fraction?_padded hmicros hdigit
    have hsix := length_padded (by decide : 0 < 6) hmicros
    simp [fractionText, hzero, parts?, hread, hlength, hhour, hminute, hsecond, peek, hfraction,
      hsix]

/-- Hours and minutes that end a text are read back. -/
theorem parts?_minutes {hour minute : Nat} (hhour : hour < 100) (hminute : minute < 100) :
    parts? 3 [] true (codes (padded 2 hour ++ ':' :: padded 2 minute))
      (padded 2 hour ++ ':' :: padded 2 minute).length = some ⟨hour, minute, 0, 0, false⟩ := by
  have hread := fun n (hn : n < 100) rest => digits?_padded (by decide : 0 < 2) hn rest
  have hlast := hread minute hminute []
  rw [List.append_nil] at hlast
  have hlength := fun n (hn : n < 100) => length_padded (by decide : 0 < 2) hn
  simp [parts?, hread, hlast, hlength, hhour, hminute, peek]

/-! ## Offsets -/

/-- What the sign of an offset makes of its amount. -/
def signFactor (offset : Offset) : Int := if offset.micros < 0 then -1 else 1

theorem signFactor_mul_seconds {offset : Offset} (h : offset.IsWhole) :
    signFactor offset * offset.seconds * second = offset.micros := by
  have hwhole : offset.micros % 1000000 = 0 := h
  have hsecond : second = 1000000 := rfl
  unfold signFactor Offset.seconds
  rw [hsecond]
  split <;> omega

theorem seconds_lt (offset : Offset) : offset.seconds < 86400 := by
  have hbounded : -86400000000 < offset.micros ∧ offset.micros < 86400000000 := offset.bounded
  unfold Offset.seconds
  omega

/-- An offset of whole seconds is made again from its sign and its seconds. -/
theorem offsetOf_seconds {offset : Offset} (h : offset.IsWhole) :
    offsetOf (some (signFactor offset * offset.seconds, 0)) = .ok (some offset) := by
  have hvalue := signFactor_mul_seconds h
  unfold offsetOf
  dsimp only
  split
  · rename_i hzero
    have hutc : Offset.utc = offset := by
      rw [hzero, Int.zero_mul] at hvalue
      cases offset
      cases hvalue
      rfl
    rw [hutc]
  · have hoffset : Offset.ofMicros? (signFactor offset * offset.seconds * second + 0) =
        some offset := by
      rw [Int.add_zero, hvalue]
      exact dif_pos offset.bounded
    rw [hoffset]

/-- The offset of a moment is read back behind its sign. -/
theorem parts?_offset {offset : Offset} (h : offset.IsWhole) :
    ∃ body, codes offset.text = (if offset.micros < 0 then 45 else 43) :: body ∧
      parts? 3 [] true body body.length =
        some ⟨offset.seconds / 3600, offset.seconds / 60 % 60, offset.seconds % 60, 0, false⟩ := by
  have hseconds := seconds_lt offset
  have hsign : (if offset.micros < 0 then '-' else '+').toNat =
      if offset.micros < 0 then 45 else 43 := by
    split <;> rfl
  rw [Offset.text_eq h, codes_cons, hsign]
  refine ⟨_, rfl, ?_⟩
  rw [length_codes]
  split
  · rename_i hzero
    rw [parts?_minutes (by omega) (by omega), hzero]
  · have hhour : offset.seconds / 3600 < 100 := by omega
    have hminute : offset.seconds / 60 % 60 < 100 := by omega
    have hsecond : offset.seconds % 60 < 100 := by omega
    have hread := parts?_clockText hhour hminute hsecond (by decide : 0 < 10 ^ 6)
      (rfl : isDigit (peek []) = false)
    rwa [List.append_nil] at hread

/-- No character of a time of day is a sign or the mark of universal time. -/
theorem not_mark_of_isClockChar (h : IsClockChar c) :
    ¬ (c.toNat = 43 ∨ c.toNat = 45 ∨ c.toNat = 90) := by
  rcases h with hdigit | rfl | rfl
  · have hrange := toNat_of_isDigit hdigit
    omega
  all_goals decide

/-- A time of day ends before the first sign. -/
theorem takeWhile_clock (clock : Clock) (rest : List Nat)
    (hmark : ∀ byte ∈ rest.head?, byte = 43 ∨ byte = 45 ∨ byte = 90) :
    (codes clock.text ++ rest).takeWhile (fun byte => ¬ (byte = 43 ∨ byte = 45 ∨ byte = 90)) =
      codes clock.text := by
  have hnone : rest.takeWhile (fun byte => ¬ (byte = 43 ∨ byte = 45 ∨ byte = 90)) = [] := by
    cases rest with
    | nil => rfl
    | cons byte others =>
        have hbyte := hmark byte rfl
        exact List.takeWhile_cons_of_neg (by simpa only [not_not, decide_eq_true_eq] using hbyte)
  rw [List.takeWhile_append_of_pos, hnone, List.append_nil]
  intro byte hbyte
  obtain ⟨c, hc, rfl⟩ := List.mem_map.mp hbyte
  simpa using not_mark_of_isClockChar (isClockChar_clockText _ _ _ _ c hc)

theorem parts?_clock (clock : Clock) (rest : List Nat) (hdigit : isDigit (peek rest) = false) :
    parts? 3 [] true (codes clock.text ++ rest) clock.text.length =
      some ⟨clock.hour, clock.minute, clock.second, clock.microsecond, decide (peek rest ≠ 0)⟩ := by
  obtain ⟨hhour, hminute, hsecond, hmicros⟩ := clock.valid
  exact parts?_clockText (by omega) (by omega) (by omega) hmicros hdigit

/-- A time of day that ends the text is read without an offset. -/
theorem time?_clock (clock : Clock) : time? (codes clock.text) =
    some ⟨⟨clock.hour, clock.minute, clock.second, clock.microsecond, false⟩, none⟩ := by
  have hbefore := takeWhile_clock clock [] nofun
  have hparts := parts?_clock clock [] rfl
  rw [List.append_nil] at hbefore hparts
  unfold time?
  dsimp only
  rw [hbefore, length_codes, hparts, ← length_codes, List.drop_length]
  rfl

/-- A time of day is read up to the sign of its offset, and the offset behind it. -/
theorem time?_signed (clock : Clock) {sign hour minute seconds : Nat} {body : List Nat}
    (hsign : sign = 43 ∨ sign = 45)
    (hbody : parts? 3 [] true body body.length = some ⟨hour, minute, seconds, 0, false⟩) :
    time? (codes clock.text ++ sign :: body) =
      some ⟨⟨clock.hour, clock.minute, clock.second, clock.microsecond, true⟩,
        some ((if sign = 45 then -1 else 1) * ((hour * 60 + minute) * 60 + seconds), 0)⟩ := by
  have hbefore := takeWhile_clock clock (sign :: body) fun byte hbyte => by
    cases hbyte
    rcases hsign with rfl | rfl <;> decide
  have hparts := parts?_clock clock (sign :: body) (by
    rcases hsign with rfl | rfl <;> rfl)
  unfold time?
  dsimp only
  rw [hbefore, length_codes, hparts, ← length_codes, List.drop_left]
  rcases hsign with rfl | rfl
  all_goals
    simp only [Option.bind_eq_bind, Option.bind_some, hbody]
    simp [peek]

/-- The offset of a moment is read back behind its time of day. -/
theorem time?_text (clock : Clock) {offset : Option Offset}
    (h : ∀ o ∈ offset, Offset.IsWhole o) :
    ∃ leftover raw, time? (codes clock.text ++ codes (offsetText offset)) =
        some ⟨⟨clock.hour, clock.minute, clock.second, clock.microsecond, leftover⟩, raw⟩ ∧
      offsetOf raw = .ok offset := by
  cases offset with
  | none =>
      have hread := time?_clock clock
      exact ⟨false, none, by simpa [offsetText, codes] using hread, rfl⟩
  | some offset =>
      have hwhole := h offset rfl
      obtain ⟨body, hbody, hread⟩ := parts?_offset hwhole
      have hsign : (if offset.micros < 0 then 45 else 43) = 43 ∨
          (if offset.micros < 0 then 45 else 43) = 45 := by
        split <;> simp
      have htime := time?_signed clock hsign hread
      have hfactor : (if (if offset.micros < 0 then 45 else 43) = 45 then (-1 : Int) else 1) =
          signFactor offset := by
        unfold signFactor
        split <;> rfl
      have hamount : ((offset.seconds / 3600 : Nat) * 60 + (offset.seconds / 60 % 60 : Nat) : Int) *
          60 + (offset.seconds % 60 : Nat) = offset.seconds := by omega
      rw [hfactor, hamount] at htime
      rw [offsetText, hbody]
      exact ⟨true, _, htime, offsetOf_seconds hwhole⟩

/-! ## Moments -/

theorem isStampChar_offsetText {offset : Option Offset} (h : ∀ o ∈ offset, Offset.IsWhole o) :
    ∀ c ∈ offsetText offset, IsStampChar c := by
  cases offset with
  | none => exact nofun
  | some offset =>
      have hclock : ∀ {l : List Char}, (∀ c ∈ l, IsClockChar c) → ∀ c ∈ l, IsStampChar c :=
        fun hl c hc => .inl (hl c hc)
      rw [offsetText, Offset.text_eq (h offset rfl), List.forall_mem_cons]
      refine ⟨?_, hclock ?_⟩
      · split
        · exact .inr (.inl rfl)
        · exact .inr (.inr rfl)
      split
      · simp only [List.forall_mem_append, List.forall_mem_cons]
        exact ⟨isClockChar_padded, .inr (.inl rfl), isClockChar_padded⟩
      · exact isClockChar_clockText _ _ _ _

/-- The text behind the blank between day and time. -/
def timeText (moment : Moment) : List Char := moment.clock.text ++ offsetText moment.offset

theorem isStampChar_timeText {moment : Moment} (h : ∀ o ∈ moment.offset, Offset.IsWhole o) :
    ∀ c ∈ timeText moment, IsStampChar c := by
  rw [timeText, List.forall_mem_append]
  exact ⟨fun c hc => .inl (isClockChar_clockText _ _ _ _ c hc), isStampChar_offsetText h⟩

theorem text_eq (moment : Moment) : moment.text = moment.date.text ++ ' ' :: timeText moment := by
  simp [Moment.text, Moment.textWith, timeText]

theorem trim_text {moment : Moment} (h : ∀ o ∈ moment.offset, Offset.IsWhole o) :
    Text.trim moment.text = moment.text := by
  have htime := isStampChar_timeText h
  have hne : timeText moment ≠ [] := by
    simp [timeText, Clock.text, clockText_eq]
  rw [text_eq]
  refine Text.trimBy_eq_self (fun c hc => ?_) fun c hc => ?_
  · have hdate : moment.date.text ≠ [] := List.ne_nil_of_length_eq_add_one moment.date.length_text
    rw [List.head?_append_of_ne_nil _ hdate] at hc
    exact (moment.date.isStampChar_text c (List.mem_of_mem_head? hc)).plain.1
  · rw [List.getLast?_append_cons, List.getLast?_cons_of_ne_nil hne] at hc
    exact (htime c (List.mem_of_mem_getLast? hc)).plain.1

/-- The text of a moment is read back as the moment if its offset has no fraction of a second. -/
theorem read_text {moment : Moment} (h : ∀ o ∈ moment.offset, Offset.IsWhole o) :
    read moment.text = .ok moment := by
  obtain ⟨leftover, raw, htime, hoffset⟩ := time?_text moment.clock h
  have hascii : ∀ c ∈ moment.text, c.toNat < 128 := by
    rw [text_eq]
    simp only [List.forall_mem_append, List.forall_mem_cons]
    exact ⟨fun c hc => (moment.date.isStampChar_text c hc).plain.2, by decide,
      fun c hc => (isStampChar_timeText h c hc).plain.2⟩
  have hlength : ¬ moment.text.length < 7 := by
    rw [text_eq, List.length_append, Date.length_text]
    omega
  have hbytes : (Text.encodeUtf8 (String.ofList moment.text)).map UInt8.toNat =
      codes moment.date.text ++ 32 :: codes (timeText moment) := by
    rw [bytes_eq_codes hascii, text_eq, codes_append, codes_cons]
    rfl
  have hten : (codes moment.date.text).length = 10 := by
    rw [length_codes, Date.length_text]
  have hmore : ¬ (codes moment.date.text ++ 32 :: codes (timeText moment)).length ≤ 10 := by
    simp [Date.length_text]
  have hblank : (codes moment.date.text ++ 32 :: codes (timeText moment)).getD 10 0 = 32 := by
    simp [List.getD, Date.length_text]
  have hdrop : (codes moment.date.text ++ 32 :: codes (timeText moment)).drop (10 + 1) =
      codes moment.clock.text ++ codes (offsetText moment.offset) := by
    rw [← List.drop_drop, ← hten, List.drop_left, timeText, codes_append]
    rfl
  have hdate : Date.ofParts moment.date.year moment.date.month moment.date.day =
      .ok moment.date := dif_pos moment.date.valid
  have hclock : Clock.ofParts moment.clock.hour moment.clock.minute moment.clock.second
      moment.clock.microsecond = .ok moment.clock := dif_pos moment.clock.valid
  unfold read
  dsimp only
  rw [hbytes, if_neg hlength, separatorPlace?_text]
  have hseparator : separatorLength 32 = 1 := rfl
  simp only [Option.bind_eq_bind, Option.bind_some, day?_text, if_neg hmore, hblank, hseparator,
    hdrop, htime, hoffset, hdate, hclock]
  rfl

end Iso

end Memberwise
