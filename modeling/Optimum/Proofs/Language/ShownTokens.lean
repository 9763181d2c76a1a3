import Optimum.Proofs.Language.Literals
import Optimum.Proofs.Language.NormalForms

namespace Optimum
namespace Language

open Decimal (Spells fractionText takeWhile_run)

/-!
# The tokens of shown text

Shown trees are made of plain digits, names, signs, marks between spaces, and
parentheses.  Each of these is taken as one token, whatever token comes before
it, if what follows cannot belong to it as well: digits and names are followed
by a space, by a closing parenthesis or by nothing (`Delimited`).
-/

/-- What follows a number or a name in shown text. -/
def Delimited (rest : List Char) : Prop :=
  ∀ c ∈ rest.head?, c = ' ' ∨ c = ')'

theorem delimited_space (rest : List Char) : Delimited (' ' :: rest) := by
  intro c first
  cases first
  exact .inl rfl

theorem delimited_closing (rest : List Char) : Delimited (')' :: rest) := by
  intro c first
  cases first
  exact .inr rfl

theorem Delimited.stops {rest : List Char} (delimited : Delimited rest) {test : Char → Bool}
    (space : test ' ' = false) (closing : test ')' = false) : ∀ c ∈ rest.head?, test c = false := by
  intro c first
  rcases delimited c first with rfl | rfl
  · exact space
  · exact closing

/-! ## Numbers -/

theorem literal_of_spells {text whole fraction : List Char} (spells : Spells text whole fraction) :
    text ∈ literal := by
  have behindPoint : fractionText fraction ∈ 1 + Language.fraction := by
    rw [fractionText]
    split
    · exact .inl rfl
    · next nonempty => exact .inr (mem_oneOf_mul.mpr
        ⟨'.', fraction, rfl, rfl, nonempty, spells.fractionDigits⟩)
  rw [spells.written, ← List.append_nil (whole ++ fractionText fraction)]
  exact .inl (Language.append_mem_mul
    (Language.append_mem_mul ⟨spells.nonempty, spells.wholeDigits⟩ behindPoint) (.inl rfl))

theorem lexedAs_number {text whole fraction rest : List Char} (spells : Spells text whole fraction)
    (delimited : Delimited rest) : LexedAs .unicode .number text rest := by
  have written := literal_of_spells spells
  rcases spells with ⟨rfl, nonempty, wholeDigits, -⟩
  rcases List.exists_cons_of_ne_nil nonempty with ⟨first, digits, rfl⟩
  have digit := wholeDigits first List.mem_cons_self
  refine ⟨first, digits ++ fractionText fraction, rfl, ?_, ?_⟩
  · exact isBlank_eq_false digit (by decide) (by decide) (by decide)
  · exact munch_literal written (delimited.stops (by decide) (by decide))

/-! ## Names -/

theorem not_isDigit_of_startsName {c : Char} (begins : Alphabet.unicode.startsName c = true) :
    ¬ c.isDigit = true := by
  intro digit
  have range : 48 ≤ c.val.toNat ∧ c.val.toNat ≤ 57 := by
    simpa [Char.isDigit, UInt32.le_iff_toNat_le] using digit
  rcases Bool.or_eq_true_iff.mp begins with letter | line
  · have small : c.toNat < 0x80 := Nat.lt_of_le_of_lt range.2 (by decide)
    change Text.isLetter c = true at letter
    rw [Text.isLetter, if_pos small] at letter
    simp only [Char.isAlpha, Char.isUpper, Char.isLower, Bool.or_eq_true, Bool.and_eq_true,
      decide_eq_true_eq, ge_iff_le, UInt32.le_iff_toNat_le] at letter
    change (65 ≤ c.val.toNat ∧ c.val.toNat ≤ 90) ∨ 97 ≤ c.val.toNat ∧ c.val.toNat ≤ 122 at letter
    omega
  · rcases of_decide_eq_true line with rfl
    exact absurd digit (by decide)

theorem munch_of_startsName {c : Char} (begins : Alphabet.unicode.startsName c = true)
    (rest : List Char) :
    munch .unicode c rest = (nameKind (c :: rest.takeWhile Alphabet.unicode.continuesName),
      reach Alphabet.unicode.continuesName rest) := by
  have notPoint : ¬ (c = '.' ∧ followedBy Char.isDigit rest = true) := by
    rintro ⟨rfl, -⟩
    exact absurd begins (by decide +kernel)
  unfold munch
  split <;> first
    | exact absurd begins (by decide +kernel)
    | rw [if_neg (not_isDigit_of_startsName begins), if_neg notPoint, if_pos begins]
      exact congrArg (fun name => (nameKind (c :: name), _)) (takeWhile_of_reach _ rest)

theorem lexedAs_name {name : String} (isName : IsName name) {rest : List Char}
    (delimited : Delimited rest) : LexedAs .unicode .identifier name.toList rest := by
  rcases isName with ⟨first, others, spelled, begins, continues, free⟩
  have stops : ∀ c ∈ rest.head?, Alphabet.unicode.continuesName c = false :=
    delimited.stops (by decide +kernel) (by decide +kernel)
  rcases takeWhile_run continues stops with ⟨taken, -⟩
  refine ⟨first, others, spelled, ?_, ?_⟩
  · exact isBlank_eq_false begins (by decide +kernel) (by decide +kernel) (by decide +kernel)
  · rw [munch_of_startsName begins, taken, free, reach_run continues stops]

/-! ## Marks -/

/-- The class of the token that an operator's mark is. -/
def Operator.tokenKind : Operator → TokenKind
  | .add => .plus
  | .subtract => .minus
  | .multiply => .star
  | .divide => .slash

theorem lexedAs_mark (operator : Operator) (rest : List Char) :
    LexedAs .unicode operator.tokenKind operator.mark.toList (' ' :: rest) := by
  cases operator <;> exact ⟨_, [], rfl, by decide, rfl⟩

theorem lexedAs_minus (rest : List Char) : LexedAs .unicode .minus ['-'] rest :=
  ⟨'-', [], rfl, by decide, rfl⟩

theorem lexedAs_leftParen (rest : List Char) : LexedAs .unicode .leftParen ['('] rest :=
  ⟨'(', [], rfl, by decide, rfl⟩

theorem lexedAs_rightParen (rest : List Char) : LexedAs .unicode .rightParen [')'] rest :=
  ⟨')', [], rfl, by decide, rfl⟩

end Language
end Optimum
