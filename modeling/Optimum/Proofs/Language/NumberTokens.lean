import Optimum.Language.Reading.Models
import Optimum.Proofs.Decimal.PlainText
import Optimum.Proofs.Language.Faults
import Optimum.Proofs.Language.Literals
import Optimum.Proofs.Language.Scanning

namespace Optimum

/-!
# Number tokens

A token is a number where the text goes on with a literal, and it is the longest
literal there.  Whatever reads every literal therefore reads every number of a
program; doubles are read so (`Decimal.read?_isSome`).
-/

namespace Decimal

open Optimum.Language

/-! ## Literals are read as doubles -/

theorem readExponent?_isSome {text : List Char} (inside : text ∈ 1 + exponent) :
    (readExponent? text).isSome = true := by
  rcases inside with rfl | inside
  · rfl
  · rcases mem_oneOf_mul.mp inside with ⟨mark, others, rfl, marks, power⟩
    have marked : mark = 'e' ∨ mark = 'E' := by simpa [marksExponent] using marks
    have readable {rest : List Char} (inside : rest ∈ digits) :
        rest ≠ [] ∧ rest.all Char.isDigit = true :=
      ⟨inside.1, List.all_eq_true.mpr inside.2⟩
    unfold readExponent?
    simp only [marked, if_true]
    rcases power with plain | signed
    · split
      · exact absurd (plain.2 '-' List.mem_cons_self) (by decide)
      · exact absurd (plain.2 '+' List.mem_cons_self) (by decide)
      · rw [if_pos (readable plain), Option.isSome_some]
    · rcases mem_oneOf_mul.mp signed with ⟨sign, rest, rfl, signs, plain⟩
      have either : sign = '+' ∨ sign = '-' := by simpa [isSign] using signs
      rcases either with rfl | rfl
      · simp only
        rw [if_pos (readable plain), Option.isSome_some]
      · simp only
        rw [if_pos (readable plain), Option.isSome_some]

theorem stops_of_exponent {text : List Char} (inside : text ∈ 1 + exponent) :
    ∀ c ∈ text.head?, c.isDigit = false ∧ c ≠ '.' := by
  intro c first
  have marks := opens_perhaps text inside c first
  simp only [marksExponent, Bool.or_eq_true, decide_eq_true_eq] at marks
  rcases marks with rfl | rfl <;> decide

/-- The parts of a literal.  Only the digits before the point or the fraction
may be missing, not both. -/
theorem exists_parts_of_literal {text : List Char} (written : text ∈ literal) :
    ∃ whole point power, text = whole ++ (point ++ power) ∧
      (∀ c ∈ whole, c.isDigit = true) ∧ point ∈ 1 + fraction ∧ power ∈ 1 + exponent ∧
      (point = [] → whole ≠ []) := by
  rcases written with inside | inside
  · rcases Language.mem_mul.mp inside with ⟨mixed, front, power, back, joined⟩
    rcases Language.mem_mul.mp front with ⟨whole, inWhole, point, inPoint, rfl⟩
    rw [List.append_assoc] at joined
    exact ⟨whole, point, power, joined.symm, inWhole.2, inPoint, back, fun _ => inWhole.1⟩
  · rcases Language.mem_mul.mp inside with ⟨point, inPoint, power, back, joined⟩
    refine ⟨[], point, power, joined.symm, nofun, .inr inPoint, back, fun none => ?_⟩
    exact absurd (none ▸ inPoint) nil_notMem_fraction

theorem read?_isSome {text : String} (written : text.toList ∈ literal) :
    (read? text).isSome = true := by
  rcases exists_parts_of_literal written with
    ⟨whole, point, power, joined, wholeDigits, inPoint, inPower, some⟩
  have ended := stops_of_exponent inPower
  rcases inPoint with rfl | inPoint
  · have nonempty := some rfl
    have taken := takeWhile_run wholeDigits fun c first => (ended c first).1
    -- The text after the digits is not taken for a fraction.
    have pointless : ∀ rest, power ≠ '.' :: rest := by
      rintro rest rfl
      exact (ended '.' rfl).2 rfl
    unfold read?
    simp [joined, taken, nonempty, readExponent?_isSome inPower]
  · rcases mem_oneOf_mul.mp inPoint with ⟨c, others, rfl, isPoint, digits⟩
    rcases of_decide_eq_true isPoint with rfl
    have stops : ∀ c ∈ ('.' :: (others ++ power)).head?, c.isDigit = false := by
      intro c first
      cases first
      decide
    have taken := takeWhile_run wholeDigits stops
    have behind := takeWhile_run digits.2 fun c first => (ended c first).1
    unfold read?
    simp [joined, taken, behind, digits.1, readExponent?_isSome inPower]

end Decimal

namespace Language

/-! ## Numbers in texts and programs -/

theorem not_beginsWith_nil : ¬ BeginsWith literal [] := by
  rintro ⟨text, inside, ahead⟩
  rcases List.prefix_nil.mp ahead with rfl
  rcases Decimal.exists_parts_of_literal inside with ⟨whole, point, power, joined, -, -, -, some⟩
  rcases List.nil_eq_append_iff.mp joined with ⟨rfl, rest⟩
  exact some (List.append_eq_nil_iff.mp rest).1 rfl

/-- What the lexer takes at the place of a token is a number if a literal
stands there, and then it is the longest one. -/
theorem literal_of_mem {alphabet : Alphabet} {source : String} {token : Token}
    (member : token ∈ tokenizeWith alphabet source) :
    ∃ before rest, source.toList = before ++ rest ∧ byteCount before = token.span.start ∧
      token.text.toList <+: rest ∧ (token.kind = .number ↔ BeginsWith literal rest) ∧
      (token.kind = .number → IsLongest literal rest token.text.length) := by
  by_cases last : token.kind = .endOfFile
  · rcases (spelled_tokenizeWith alphabet source).closed with ⟨proper, shown, own⟩
    rw [shown] at member
    rcases List.mem_append.mp member with earlier | final
    · exact absurd last (own token earlier).1
    · rcases List.mem_singleton.mp final with rfl
      refine ⟨source.toList, [], (List.append_nil _).symm, (Nat.zero_add _).symm,
        List.prefix_rfl, ?_, nofun⟩
      exact ⟨nofun, fun begins => absurd begins not_beginsWith_nil⟩
  · rcases munched_of_mem member last with ⟨before, c, rest, shown, start, kind, text⟩
    refine ⟨before, c :: rest, shown, by rw [start, Nat.zero_add], ?_, ?_, fun number => ?_⟩
    · rw [text]
      exact List.cons_prefix_cons.mpr ⟨rfl, List.take_prefix _ rest⟩
    · rw [kind]
      exact munch_number_iff
    · have longest := munch_longest (kind.symm.trans number)
      have length : token.text.length = (munch alphabet c rest).2 + 1 := by
        rw [← String.length_toList, text, List.length_cons, List.length_take,
          Nat.min_eq_left (Nat.le_of_succ_le_succ longest.within)]
      rwa [length]

/-- A fault over a number is about a literal that is not read. -/
theorem unread_of_invalidNumber {α : Type} [NumberText α] [Neg α] {source text : String}
    {span : Span} (failed : parse (α := α) source = .error (.invalidNumber text span)) :
    text.toList ∈ literal ∧ (NumberText.read? text : Option α) = none := by
  cases faultAt_of_ofTokens failed with
  | @invalidNumber token member number unread =>
      rcases literal_of_mem member with ⟨-, rest, -, -, ahead, -, longest⟩
      have written := (longest number).member
      rw [← String.length_toList, ← List.prefix_iff_eq_take.mp ahead] at written
      exact ⟨written, unread⟩

/-- Number tokens are the longest literals at their places, and a program whose
literals can all be read has no invalid number.  So the fault over an invalid
number is about the type of the numbers, and never about the text. -/
theorem numberTokens_longest (alphabet : Alphabet) (source : String) :
    (∀ token ∈ tokenizeWith alphabet source, ∃ before rest,
      source.toList = before ++ rest ∧ byteCount before = token.span.start ∧
      token.text.toList <+: rest ∧ (token.kind = .number ↔ BeginsWith literal rest) ∧
      (token.kind = .number → IsLongest literal rest token.text.length)) ∧
    ∀ {α : Type} [NumberText α] [Neg α],
      (∀ text : String, text.toList ∈ literal → (NumberText.read? text : Option α).isSome = true) →
      ∀ text span, parse (α := α) source ≠ .error (.invalidNumber text span) := by
  refine ⟨fun token member => literal_of_mem member, fun accepts text span failed => ?_⟩
  rcases unread_of_invalidNumber failed with ⟨written, unread⟩
  have read := accepts text written
  rw [unread] at read
  cases read

theorem numberTokens_longest_doubles :
    (∀ text : String, text.toList ∈ literal →
      (NumberText.read? text : Option Float).isSome = true) ∧
    ∀ text span, parse (α := Float) "lp m { max 2.5e+3 x1 + .5e x2 }" ≠
      .error (.invalidNumber text span) :=
  ⟨fun _ => Decimal.read?_isSome, (numberTokens_longest .unicode _).2 fun _ => Decimal.read?_isSome⟩

-- Neither a point nor a mark without digits behind it belongs to a number.
example : ((tokenize "1.e5 1.5e+ .5.5").filter (·.kind = .number)).map Token.text =
    ["1", "1.5", ".5", ".5"] := by
  decide +kernel

end Language
end Optimum
