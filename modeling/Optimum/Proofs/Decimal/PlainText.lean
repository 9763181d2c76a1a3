import Optimum.NumberText
import Optimum.Proofs.Decimal.Shortest

namespace Optimum
namespace Decimal

/-!
# Plain digits are read back

A finite double without a sign is written as digits, perhaps with a fraction
behind a point (`exists_spells_positional`).  Such a text is read as the double
nearest to what it denotes (`read?_of_spells`), and a double is the nearest one
to every number of its neighbourhood (`nearestDecimal_of_holds`).
-/

/-! ## Spelling -/

/-- A fraction behind its point, if there is one. -/
def fractionText (fraction : List Char) : List Char :=
  if fraction = [] then [] else '.' :: fraction

/-- Digits, perhaps with a fraction.  This is the only form in which numbers are
written where they are read again. -/
structure Spells (text whole fraction : List Char) : Prop where
  written : text = whole ++ fractionText fraction
  nonempty : whole ≠ []
  wholeDigits : ∀ c ∈ whole, c.isDigit = true
  fractionDigits : ∀ c ∈ fraction, c.isDigit = true

/-- The number that plain digits denote. -/
def spelledValue (whole fraction : List Char) : ℚ :=
  digitsValue (whole ++ fraction) * 10 ^ (-(fraction.length : Int))

theorem isDigit_toDigits {number : Nat} {c : Char} (member : c ∈ Nat.toDigits 10 number) :
    c.isDigit = true :=
  Nat.isDigit_of_mem_toDigits (by norm_num) (le_refl 10) member

theorem digitsValue_toDigits (number : Nat) : digitsValue (Nat.toDigits 10 number) = number :=
  Nat.ofDigitChars_ten_toDigits

theorem digitsValue_zeros_append (count : Nat) (digits : List Char) :
    digitsValue (List.replicate count '0' ++ digits) = digitsValue digits := by
  change Nat.ofDigitChars 10 _ 0 = Nat.ofDigitChars 10 _ 0
  rw [Nat.ofDigitChars_append, Nat.ofDigitChars_replicate_zero, Nat.mul_zero]

theorem digitsValue_append_zeros (digits : List Char) (count : Nat) :
    digitsValue (digits ++ List.replicate count '0') = 10 ^ count * digitsValue digits := by
  change Nat.ofDigitChars 10 _ 0 = 10 ^ count * Nat.ofDigitChars 10 _ 0
  rw [Nat.ofDigitChars_append, Nat.ofDigitChars_replicate_zero]

section Positional

variable (number : Nat)

/-- A whole number, with the zeros that its exponent asks for. -/
theorem spells_whole (zeros : Nat) :
    Spells (String.ofList (Nat.toDigits 10 number) ++ repeated '0' zeros ++ "").toList
        (Nat.toDigits 10 number ++ List.replicate zeros '0') [] ∧
      spelledValue (Nat.toDigits 10 number ++ List.replicate zeros '0') [] =
        number * 10 ^ (zeros : Int) := by
  refine ⟨⟨by simp [repeated, fractionText], by simp, ?_, nofun⟩, ?_⟩
  · intro c member
    rcases List.mem_append.mp member with digit | zero
    · exact isDigit_toDigits digit
    · rw [List.eq_of_mem_replicate zero]
      decide
  · rw [spelledValue, List.append_nil, digitsValue_append_zeros, digitsValue_toDigits, zpow_natCast]
    push_cast
    simp [mul_comm]

theorem spells_fraction {places : Nat}
    (short : (Nat.toDigits 10 number).length ≤ places) :
    Spells ("0." ++ repeated '0' (places - (Nat.toDigits 10 number).length) ++
        String.ofList (Nat.toDigits 10 number)).toList ['0']
        (List.replicate (places - (Nat.toDigits 10 number).length) '0' ++ Nat.toDigits 10 number) ∧
      spelledValue ['0']
        (List.replicate (places - (Nat.toDigits 10 number).length) '0' ++ Nat.toDigits 10 number) =
        number * 10 ^ (-(places : Int)) := by
  refine ⟨⟨by simp [repeated, fractionText], by simp, by simp, ?_⟩, ?_⟩
  · intro c member
    rcases List.mem_append.mp member with zero | digit
    · rw [List.eq_of_mem_replicate zero]
      decide
    · exact isDigit_toDigits digit
  · have zero : ['0'] = List.replicate 1 '0' := rfl
    rw [spelledValue, zero, digitsValue_zeros_append, digitsValue_zeros_append,
      digitsValue_toDigits, List.length_append, List.length_replicate, Nat.sub_add_cancel short]

theorem spells_mixed {places : Nat} (positive : 0 < places)
    (long : places < (Nat.toDigits 10 number).length) :
    Spells (String.ofList ((Nat.toDigits 10 number).take
          ((Nat.toDigits 10 number).length - places)) ++ "." ++
        String.ofList ((Nat.toDigits 10 number).drop
          ((Nat.toDigits 10 number).length - places))).toList
        ((Nat.toDigits 10 number).take ((Nat.toDigits 10 number).length - places))
        ((Nat.toDigits 10 number).drop ((Nat.toDigits 10 number).length - places)) ∧
      spelledValue ((Nat.toDigits 10 number).take ((Nat.toDigits 10 number).length - places))
        ((Nat.toDigits 10 number).drop ((Nat.toDigits 10 number).length - places)) =
        number * 10 ^ (-(places : Int)) := by
  have length : ((Nat.toDigits 10 number).drop
      ((Nat.toDigits 10 number).length - places)).length = places := by
    rw [List.length_drop]
    omega
  have nonempty : (Nat.toDigits 10 number).drop ((Nat.toDigits 10 number).length - places) ≠ [] :=
    List.ne_nil_of_length_pos (by omega)
  refine ⟨⟨?_, ?_, ?_, ?_⟩, ?_⟩
  · rw [fractionText, if_neg nonempty]
    simp
  · refine List.ne_nil_of_length_pos ?_
    rw [List.length_take]
    omega
  · exact fun c member => isDigit_toDigits (List.mem_of_mem_take member)
  · exact fun c member => isDigit_toDigits (List.mem_of_mem_drop member)
  · rw [spelledValue, length, List.take_append_drop, digitsValue_toDigits]

end Positional

/-- Digits without an exponent spell the number that they denote. -/
theorem exists_spells_positional (decimal : Digits) :
    ∃ whole fraction, Spells (positionalText false decimal).toList whole fraction ∧
      spelledValue whole fraction = decimal.value := by
  unfold positionalText
  dsimp only
  split
  · next natural =>
      rcases Int.eq_ofNat_of_zero_le natural with ⟨zeros, exact⟩
      rw [Digits.value, exact, Int.toNat_natCast]
      exact ⟨_, _, spells_whole decimal.digits zeros⟩
  · next negative =>
      rcases Int.exists_eq_neg_ofNat (Int.le_of_lt (Int.not_le.mp negative)) with ⟨places, exact⟩
      have positive : 0 < places := by omega
      rw [Digits.value, exact, Int.natAbs_neg, Int.natAbs_natCast]
      split
      · next short => exact ⟨_, _, spells_fraction decimal.digits short⟩
      · next long =>
          exact ⟨_, _, spells_mixed decimal.digits positive (Nat.lt_of_not_le long)⟩

/-! ## Reading -/

/-- A run of characters ends where a character does not pass the test. -/
theorem takeWhile_run {test : Char → Bool} {run rest : List Char} (all : ∀ c ∈ run, test c = true)
    (stops : ∀ c ∈ rest.head?, test c = false) :
    (run ++ rest).takeWhile test = run ∧ (run ++ rest).dropWhile test = rest := by
  have none : rest.takeWhile test = [] ∧ rest.dropWhile test = rest := by
    cases rest with
    | nil => exact ⟨rfl, rfl⟩
    | cons c rest =>
        have other := stops c rfl
        exact ⟨List.takeWhile_cons_of_neg (by simp [other]),
          List.dropWhile_cons_of_neg (by simp [other])⟩
  rw [List.takeWhile_append_of_pos all, List.dropWhile_append_of_pos all, none.1, none.2,
    List.append_nil]
  exact ⟨rfl, rfl⟩

/-- Plain digits are read as the double nearest to the number they denote.  The
point only moves the exponent. -/
theorem read?_of_spells {text : String} {whole fraction : List Char}
    (spells : Spells text.toList whole fraction) :
    read? text =
      some (nearestDecimal (digitsValue (whole ++ fraction)) (-(fraction.length : Int))) := by
  have stops : ∀ c ∈ (fractionText fraction).head?, c.isDigit = false := by
    unfold fractionText
    split
    · exact fun c impossible => nomatch impossible
    · intro c first
      cases first
      decide
  rcases takeWhile_run spells.wholeDigits stops with ⟨taken, dropped⟩
  have ends : ∀ c ∈ ([] : List Char).head?, c.isDigit = false := fun c impossible =>
    nomatch impossible
  have fractionTaken := takeWhile_run spells.fractionDigits ends
  rw [List.append_nil] at fractionTaken
  unfold read?
  simp only [spells.written, taken, dropped]
  by_cases none : fraction = []
  · simp [fractionText, none, spells.nonempty, readExponent?]
  · simp [fractionText, none, fractionTaken.1, fractionTaken.2, readExponent?]

/-- The exponent of the first digit, with the power of ten there and the next. -/
theorem leading_bounds {digits : Nat} (positive : 0 < digits) (power : Int) :
    (10 : ℚ) ^ (power + (Nat.toDigits 10 digits).length - 1) ≤ digits * 10 ^ power ∧
      digits * (10 : ℚ) ^ power < 10 ^ (power + (Nat.toDigits 10 digits).length) := by
  have powerPositive : (0 : ℚ) < 10 ^ power := zpow_pos (by norm_num) _
  obtain ⟨size, length⟩ : ∃ size, (Nat.toDigits 10 digits).length = size + 1 :=
    Nat.exists_eq_add_one_of_ne_zero (Nat.ne_of_gt Nat.length_toDigits_pos)
  have above : digits < 10 ^ (size + 1) :=
    (Nat.length_toDigits_le_iff (by norm_num) size.succ_pos).mp (Nat.le_of_eq length)
  have below : 10 ^ size ≤ digits := by
    rcases Nat.eq_zero_or_pos size with rfl | some
    · exact positive
    · refine Nat.le_of_not_lt fun small => ?_
      have short := (Nat.length_toDigits_le_iff (by norm_num) some).mpr small
      omega
  have belowCast : (10 : ℚ) ^ size ≤ digits := mod_cast below
  have aboveCast : (digits : ℚ) < 10 ^ (size + 1) := mod_cast above
  rw [length, Nat.cast_add_one, ← add_assoc, add_sub_cancel_right, zpow_add₀ (by norm_num),
    zpow_natCast, add_assoc, ← Nat.cast_add_one, zpow_add₀ (by norm_num), zpow_natCast]
  constructor
  · rw [mul_comm]
    gcongr
  · rw [mul_comm ((10 : ℚ) ^ power)]
    gcongr

/-- Numbers near a double are within its range, so the reader does not cut them
off by the exponent of their first digit. -/
theorem holds_range {significand : Nat} {exponent : Int} (double : IsDouble significand exponent)
    {value : ℚ} (holds : (Neighbourhood.of significand exponent).Holds value) :
    (10 : ℚ) ^ (-330 : Int) < value ∧ value < 10 ^ (311 : Int) := by
  rcases holds with ⟨low, high, -⟩
  have positive := double.positive
  have bounded := double.bounded
  have least := double.least
  have most := double.most
  rw [leastExponent] at least
  rw [low_cast double] at low
  have unit : (Neighbourhood.of significand exponent).exponent = exponent - 2 := rfl
  have ends : ((Neighbourhood.of significand exponent).high : ℚ) = 4 * significand + 2 := by
    simp [Neighbourhood.of]
  have significandLow : (1 : ℚ) ≤ significand := mod_cast positive
  have significandHigh : (significand : ℚ) + 1 ≤ 2 ^ 53 := mod_cast bounded
  rw [unit] at low high
  rw [ends] at high
  have unitPositive : (0 : ℚ) < 2 ^ (exponent - 2) := zpow_pos two_pos _
  constructor
  · have smallest : (2 : ℚ) ^ (-1076 : Int) ≤ 2 ^ (exponent - 2) :=
      zpow_le_zpow_right₀ one_le_two (by omega)
    have quarter : (1 : ℚ) * 2 ^ (exponent - 2) ≤
        (if significand = leastNormal ∧ leastExponent < exponent then 4 * (significand : ℚ) - 1
          else 4 * significand - 2) * 2 ^ (exponent - 2) := by
      gcongr
      split <;> linarith
    have powers : 2 ^ 1076 < 10 ^ 330 := by decide +kernel
    have tens : (10 : ℚ) ^ (-330 : Int) < 2 ^ (-1076 : Int) := by
      rw [zpow_neg, zpow_neg]
      refine inv_strictAnti₀ (by positivity) ?_
      exact_mod_cast powers
    linarith
  · have largest : (2 : ℚ) ^ (exponent - 2) ≤ 2 ^ (969 : Int) :=
      zpow_le_zpow_right₀ one_le_two (by omega)
    have product : (4 * (significand : ℚ) + 2) * 2 ^ (exponent - 2) ≤ 2 ^ 55 * 2 ^ (969 : Int) := by
      gcongr
      linarith
    have powers : 2 ^ 55 * 2 ^ 969 < 10 ^ 311 := by decide +kernel
    have tens : (2 : ℚ) ^ 55 * 2 ^ (969 : Int) < 10 ^ (311 : Int) := by exact_mod_cast powers
    exact lt_of_le_of_lt (high.trans product) tens

/-- Every decimal in the neighbourhood of a double is read as that double.
Which of them is written does not matter. -/
theorem nearestDecimal_of_holds {significand : Nat} {exponent : Int}
    (double : IsDouble significand exponent) {digits : Nat} {power : Int}
    (holds : (Neighbourhood.of significand exponent).Holds (digits * 10 ^ power)) :
    nearestDecimal digits power =
      Float.ofBits (UInt64.ofNat ((exponent - leastExponent).toNat * 2 ^ 52 + significand)) := by
  have powerPositive : (0 : ℚ) < 10 ^ power := zpow_pos (by norm_num) _
  have range := holds_range double holds
  have nonzero : digits ≠ 0 := by
    rintro rfl
    rw [Nat.cast_zero, zero_mul] at range
    exact absurd range.1 (not_lt.mpr (zpow_nonneg (by norm_num) _))
  have positive : 0 < digits := Nat.pos_of_ne_zero nonzero
  rcases leading_bounds positive power with ⟨below, above⟩
  have notSmall : ¬ power + (Nat.toDigits 10 digits).length - 1 < -330 := by
    intro small
    have tens : (10 : ℚ) ^ (power + (Nat.toDigits 10 digits).length) ≤ 10 ^ (-330 : Int) :=
      zpow_le_zpow_right₀ (by norm_num) (by omega)
    linarith [range.1]
  have notLarge : ¬ 310 < power + (Nat.toDigits 10 digits).length - 1 := by
    intro large
    have tens : (10 : ℚ) ^ (311 : Int) ≤ 10 ^ (power + (Nat.toDigits 10 digits).length - 1) :=
      zpow_le_zpow_right₀ (by norm_num) (by omega)
    linarith [range.2]
  have quotient := scaled_eq digits 10 power
  rw [Nat.cast_ofNat] at quotient
  have denominatorPositive : 0 < (scaled digits 10 power).2 := scaled_snd_pos (by norm_num) power
  have numeratorPositive : 0 < (scaled digits 10 power).1 := by
    refine Nat.pos_of_ne_zero fun zero => ?_
    rw [zero, Nat.cast_zero, zero_div] at quotient
    exact absurd quotient (ne_of_lt (mul_pos (Nat.cast_pos.mpr positive) powerPositive))
  rw [← quotient] at holds
  have bits := nearestBits_of_holds double numeratorPositive denominatorPositive holds
  unfold nearestDecimal
  simp only [nonzero, notSmall, notLarge, or_self, if_false]
  rw [nearest, bits]

end Decimal
end Optimum
