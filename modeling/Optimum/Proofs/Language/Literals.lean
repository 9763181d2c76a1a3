import Mathlib.Computability.Language
import Optimum.Proofs.Language.Lexing

namespace Optimum
namespace Language

/-!
# The longest literal

Decimal literals form a language of texts, given here by unions and products.
The lexer looks one or two characters ahead before it goes on with a fraction
or an exponent, and it never goes back.  That this finds the longest literal at
a place (`munch_longest`) is put together from the parts of a literal: each part
begins with a mark that no part before it contains, so none of them could give
a character away to the next one.
-/

/-! ## Literals -/

/-- The texts of one character that passes a test. -/
def oneOf (test : Char → Bool) : Language Char :=
  {text | ∃ c, test c = true ∧ text = [c]}

/-- One or more digits. -/
def digits : Language Char :=
  {text | text ≠ [] ∧ ∀ c ∈ text, c.isDigit = true}

def isPoint (c : Char) : Bool :=
  c = '.'

def isSign (c : Char) : Bool :=
  c = '+' || c = '-'

def marksExponent (c : Char) : Bool :=
  c = 'e' || c = 'E'

/-- A point and digits. -/
def fraction : Language Char :=
  oneOf isPoint * digits

/-- A mark, perhaps a sign, and digits. -/
def exponent : Language Char :=
  oneOf marksExponent * (digits + oneOf isSign * digits)

/-- Digits, perhaps with a fraction and perhaps with an exponent, or a fraction
alone, perhaps with an exponent. -/
def literal : Language Char :=
  digits * (1 + fraction) * (1 + exponent) + fraction * (1 + exponent)

theorem mem_oneOf_mul {test : Char → Bool} {language : Language Char} {text : List Char} :
    text ∈ oneOf test * language ↔
      ∃ c others, text = c :: others ∧ test c = true ∧ others ∈ language := by
  rw [Language.mem_mul]
  constructor
  · rintro ⟨_, ⟨c, passes, rfl⟩, others, inside, rfl⟩
    exact ⟨c, others, rfl, passes, inside⟩
  · rintro ⟨c, others, rfl, passes, inside⟩
    exact ⟨[c], ⟨c, passes, rfl⟩, others, inside, rfl⟩

theorem mem_perhaps {language : Language Char} {text : List Char} :
    text ∈ 1 + language ↔ text = [] ∨ text ∈ language :=
  Iff.rfl

/-! The characters of each part. -/

/-- Every character of a language's texts passes a test. -/
def MadeOf (test : Char → Bool) (language : Language Char) : Prop :=
  ∀ text ∈ language, ∀ c ∈ text, test c = true

namespace MadeOf

variable {test : Char → Bool} {first second : Language Char}

theorem perhaps (all : MadeOf test first) : MadeOf test (1 + first) := by
  rintro text (rfl | inside)
  · exact nofun
  · exact all text inside

theorem add (left : MadeOf test first) (right : MadeOf test second) :
    MadeOf test (first + second) := by
  rintro text (inside | inside)
  · exact left text inside
  · exact right text inside

theorem mul (left : MadeOf test first) (right : MadeOf test second) :
    MadeOf test (first * second) := by
  intro text inside
  rcases Language.mem_mul.mp inside with ⟨front, inFirst, back, inSecond, rfl⟩
  exact List.forall_mem_append.mpr ⟨left front inFirst, right back inSecond⟩

theorem oneOf {mark : Char → Bool} (passes : ∀ c, mark c = true → test c = true) :
    MadeOf test (oneOf mark) := by
  rintro _ ⟨c, marks, rfl⟩
  exact List.forall_mem_singleton.mpr (passes c marks)

theorem digits (passes : ∀ c : Char, c.isDigit = true → test c = true) :
    MadeOf test digits :=
  fun _ inside c member => passes c (inside.2 c member)

end MadeOf

/-! ## The longest text at a place -/

/-- The first characters of a text that belong to a language, where no more of
them do. -/
structure IsLongest (language : Language Char) (chars : List Char) (count : Nat) : Prop where
  within : count ≤ chars.length
  member : chars.take count ∈ language
  longest : ∀ text ∈ language, text <+: chars → text.length ≤ count

/-- Characters begin with a text of a language. -/
def BeginsWith (language : Language Char) (chars : List Char) : Prop :=
  ∃ text ∈ language, text <+: chars

namespace BeginsWith

variable {first second : Language Char} {chars : List Char}

theorem add : BeginsWith (first + second) chars ↔
    BeginsWith first chars ∨ BeginsWith second chars := by
  simp only [BeginsWith, Language.mem_add, or_and_right, exists_or]

theorem left_of_mul (begins : BeginsWith (first * second) chars) : BeginsWith first chars := by
  rcases begins with ⟨text, inside, ahead⟩
  rcases Language.mem_mul.mp inside with ⟨front, inFirst, back, -, rfl⟩
  exact ⟨front, inFirst, (List.prefix_append front back).trans ahead⟩

end BeginsWith

namespace IsLongest

variable {first second : Language Char} {chars : List Char} {count more : Nat}

theorem beginsWith (longest : IsLongest first chars count) : BeginsWith first chars :=
  ⟨_, longest.member, List.take_prefix count chars⟩

theorem of_pos (longest : IsLongest (1 + first) chars count) (positive : 0 < count) :
    IsLongest first chars count where
  within := longest.within
  member := by
    refine (mem_perhaps.mp longest.member).resolve_left (List.ne_nil_of_length_pos ?_)
    rwa [List.length_take, Nat.min_eq_left longest.within]
  longest text inside := longest.longest text (.inr inside)

/-- Where a part may be missing, counting nothing means that it is. -/
theorem beginsWith_iff (longest : IsLongest (1 + first) chars count) (solid : [] ∉ first) :
    BeginsWith first chars ↔ 0 < count := by
  constructor
  · rintro ⟨text, inside, ahead⟩
    have nonempty : text ≠ [] := fun empty => solid (empty ▸ inside)
    exact Nat.lt_of_lt_of_le (List.length_pos_iff.mpr nonempty)
      (longest.longest text (.inr inside) ahead)
  · exact fun positive => (longest.of_pos positive).beginsWith

theorem add (left : IsLongest first chars count) (right : IsLongest second chars more) :
    IsLongest (first + second) chars (max count more) where
  within := Nat.max_le.mpr ⟨left.within, right.within⟩
  member := by
    rcases Nat.le_total count more with less | less
    · rw [Nat.max_eq_right less]
      exact .inr right.member
    · rw [Nat.max_eq_left less]
      exact .inl left.member
  longest := by
    rintro text (inside | inside) ahead
    · exact le_max_of_le_left (left.longest text inside ahead)
    · exact le_max_of_le_right (right.longest text inside ahead)

theorem add_of_absent (longest : IsLongest first chars count)
    (absent : ¬ BeginsWith second chars) : IsLongest (first + second) chars count where
  within := longest.within
  member := .inl longest.member
  longest := by
    rintro text (inside | inside) ahead
    · exact longest.longest text inside ahead
    · exact absurd ⟨text, inside, ahead⟩ absent

/-- Parts follow each other greedily if the second begins with a mark that the
first does not contain. -/
theorem mul (left : IsLongest first chars count)
    (right : IsLongest second (chars.drop count) more) {mark : Char → Bool}
    (unmarked : MadeOf (fun c => !mark c) first)
    (opens : ∀ text ∈ second, ∀ c ∈ text.head?, mark c = true) :
    IsLongest (first * second) chars (count + more) where
  within := by
    have front := left.within
    have back := right.within
    rw [List.length_drop] at back
    omega
  member := by
    rw [List.take_add]
    exact Language.append_mem_mul left.member right.member
  longest := by
    intro text inside ahead
    rcases Language.mem_mul.mp inside with ⟨front, inFirst, back, inSecond, rfl⟩
    have frontAhead : front <+: chars := (List.prefix_append front back).trans ahead
    rw [List.length_append]
    rcases Nat.eq_or_lt_of_le (left.longest front inFirst frontAhead) with full | short
    · have rest : back <+: chars.drop count := by
        rcases ahead with ⟨behind, rfl⟩
        rw [← full, List.append_assoc, List.drop_left]
        exact List.prefix_append back behind
      have bound := right.longest back inSecond rest
      omega
    · cases back with
      | nil =>
          rw [List.length_nil]
          omega
      | cons c back =>
          -- The mark stands where the first part could still go on.
          have reached : front ++ [c] <+: chars.take count := by
            refine List.prefix_take_iff.mpr ⟨?_, by simpa using Nat.succ_le_of_lt short⟩
            exact (List.prefix_append (front ++ [c]) back).trans (by simpa using ahead)
          have inFront := unmarked _ left.member c (reached.subset (by simp))
          have marked := opens _ inSecond c rfl
          simp [marked] at inFront

end IsLongest

/-! ## How far the parts of a literal reach -/

theorem nil_notMem_digits : [] ∉ digits :=
  fun inside => inside.1 rfl

theorem isLongest_digits (chars : List Char) :
    IsLongest (1 + digits) chars (reach Char.isDigit chars) where
  within := (List.takeWhile_sublist _).length_le
  member := by
    rw [takeWhile_of_reach]
    rcases eq_or_ne (chars.takeWhile Char.isDigit) [] with empty | nonempty
    · exact .inl empty
    · exact .inr ⟨nonempty, fun c member => List.all_eq_true.mp List.all_takeWhile c member⟩
  longest := by
    rintro text inside ⟨behind, rfl⟩
    have all : ∀ c ∈ text, c.isDigit = true := by
      rcases inside with rfl | inside
      · exact nofun
      · exact inside.2
    rw [reach, List.takeWhile_append_of_pos all, List.length_append]
    exact Nat.le_add_right _ _

/-- How far a mark reaches with what must follow it; nothing, if nothing
follows. -/
def markedReach (mark : Char → Bool) (count : List Char → Nat) : List Char → Nat
  | c :: rest => if mark c ∧ 0 < count rest then count rest + 1 else 0
  | [] => 0

theorem isLongest_marked {mark : Char → Bool} {language : Language Char}
    {count : List Char → Nat} (solid : [] ∉ language)
    (inner : ∀ chars, IsLongest (1 + language) chars (count chars)) (chars : List Char) :
    IsLongest (1 + oneOf mark * language) chars (markedReach mark count chars) := by
  have none (absent : ¬ BeginsWith (oneOf mark * language) chars) :
      IsLongest (1 + oneOf mark * language) chars 0 := by
    refine .add_of_absent ⟨Nat.zero_le _, rfl, ?_⟩ absent
    rintro text rfl -
    exact Nat.le_refl 0
  cases chars with
  | nil =>
      refine none fun ⟨text, inside, ahead⟩ => ?_
      rcases mem_oneOf_mul.mp inside with ⟨c, others, rfl, -, -⟩
      cases List.prefix_nil.mp ahead
  | cons c rest =>
      have split : BeginsWith (oneOf mark * language) (c :: rest) →
          mark c = true ∧ BeginsWith language rest := by
        rintro ⟨text, inside, ahead⟩
        rcases mem_oneOf_mul.mp inside with ⟨c, others, rfl, marks, inLanguage⟩
        rcases List.cons_prefix_cons.mp ahead with ⟨rfl, behind⟩
        exact ⟨marks, others, inLanguage, behind⟩
      have longest := inner rest
      rw [markedReach]
      split
      · next goesOn =>
          refine ⟨?_, .inr ?_, ?_⟩
          · exact Nat.succ_le_succ longest.within
          · exact mem_oneOf_mul.mpr ⟨c, _, rfl, goesOn.1, (longest.of_pos goesOn.2).member⟩
          · rintro text (rfl | inside) ahead
            · exact Nat.zero_le _
            · rcases mem_oneOf_mul.mp inside with ⟨c, others, rfl, -, inLanguage⟩
              have behind := (List.cons_prefix_cons.mp ahead).2
              exact Nat.succ_le_succ (longest.longest others (.inr inLanguage) behind)
      · next stops =>
          refine none fun begins => stops ⟨(split begins).1, ?_⟩
          exact (longest.beginsWith_iff solid).mp (split begins).2

theorem fractionReach_eq (chars : List Char) :
    fractionReach chars = markedReach isPoint (reach Char.isDigit) chars := by
  rcases chars with _ | ⟨c, _ | ⟨d, rest⟩⟩
  · rfl
  · simp [fractionReach, markedReach, reach]
  · by_cases point : c = '.'
    · subst point
      by_cases digit : d.isDigit = true
      · simp [fractionReach, markedReach, isPoint, reach, digit]
        omega
      · simp [fractionReach, markedReach, isPoint, reach, digit]
    · simp [fractionReach, markedReach, isPoint, point]

theorem exponentDigits_eq (chars : List Char) :
    exponentDigits chars =
      max (reach Char.isDigit chars) (markedReach isSign (reach Char.isDigit) chars) := by
  cases chars with
  | nil => rfl
  | cons c rest =>
      by_cases digit : c.isDigit = true
      · have plain : isSign c = false := by
          by_contra signed
          simp only [isSign, Bool.not_eq_false, Bool.or_eq_true, decide_eq_true_eq] at signed
          rcases signed with rfl | rfl <;> exact absurd digit (by decide)
        simp [exponentDigits, markedReach, reach, digit, plain, Nat.add_comm]
      · have none : reach Char.isDigit (c :: rest) = 0 := by simp [reach, digit]
        cases counted : reach Char.isDigit rest <;>
          simp [exponentDigits, markedReach, isSign, digit, none, counted]

theorem exponentReach_eq (chars : List Char) :
    exponentReach chars = markedReach marksExponent exponentDigits chars := by
  cases chars with
  | nil => rfl
  | cons c rest =>
      cases counted : exponentDigits rest <;>
        simp [exponentReach, markedReach, marksExponent, counted]

theorem isLongest_fraction (chars : List Char) :
    IsLongest (1 + fraction) chars (fractionReach chars) :=
  fractionReach_eq chars ▸ isLongest_marked nil_notMem_digits isLongest_digits chars

theorem isLongest_exponentDigits (chars : List Char) :
    IsLongest (1 + (digits + oneOf isSign * digits)) chars (exponentDigits chars) := by
  have signed : IsLongest (1 + oneOf isSign * digits) chars _ :=
    isLongest_marked nil_notMem_digits isLongest_digits chars
  have both := (isLongest_digits chars).add signed
  rwa [add_add_add_comm, Language.add_self, ← exponentDigits_eq] at both

theorem isLongest_exponent (chars : List Char) :
    IsLongest (1 + exponent) chars (exponentReach chars) := by
  rw [exponentReach_eq]
  refine isLongest_marked ?_ isLongest_exponentDigits chars
  rintro (inside | inside)
  · exact nil_notMem_digits inside
  · rcases mem_oneOf_mul.mp inside with ⟨c, others, none, -, -⟩
    cases none

/-! ## Literals at a place -/

theorem opens_perhaps {mark : Char → Bool} {language : Language Char} :
    ∀ text ∈ 1 + oneOf mark * language, ∀ c ∈ text.head?, mark c = true := by
  rintro text (rfl | inside) c first
  · cases first
  · rcases mem_oneOf_mul.mp inside with ⟨d, others, rfl, marks, -⟩
    cases first
    exact marks

theorem nil_notMem_fraction : [] ∉ fraction := by
  intro inside
  rcases mem_oneOf_mul.mp inside with ⟨c, others, none, -, -⟩
  cases none

theorem not_mark_of_isDigit {c : Char} (digit : c.isDigit = true) :
    isPoint c = false ∧ marksExponent c = false := by
  have other : ∀ d : Char, d.isDigit = false → c ≠ d := by
    rintro d letter rfl
    simp [digit] at letter
  simp [isPoint, marksExponent, other '.' (by decide), other 'e' (by decide),
    other 'E' (by decide)]

theorem madeOf_fraction : MadeOf (fun c => !marksExponent c) fraction := by
  refine .mul (.oneOf fun c point => ?_) (.digits fun c digit => ?_)
  · rcases of_decide_eq_true point with rfl
    decide
  · simp [(not_mark_of_isDigit digit).2]

/-- Digits are followed by a fraction and an exponent as far as they go.  Either
may be missing, and then it counts for nothing. -/
theorem isLongest_whole {chars : List Char} {whole : Nat}
    (digitsFirst : IsLongest digits chars whole) :
    IsLongest (digits * (1 + fraction) * (1 + exponent)) chars
      (whole + fractionReach (chars.drop whole) +
        exponentReach (chars.drop (whole + fractionReach (chars.drop whole)))) := by
  have noPoint : MadeOf (fun c => !isPoint c) digits :=
    .digits fun c digit => by simp [(not_mark_of_isDigit digit).1]
  have noMark : MadeOf (fun c => !marksExponent c) digits :=
    .digits fun c digit => by simp [(not_mark_of_isDigit digit).2]
  have mixed := digitsFirst.mul (isLongest_fraction _) noPoint opens_perhaps
  exact mixed.mul (isLongest_exponent _) (noMark.mul madeOf_fraction.perhaps) opens_perhaps

/-- A fraction without digits before it is followed by an exponent. -/
theorem isLongest_pointed {chars : List Char} {point : Nat}
    (fractionFirst : IsLongest fraction chars point) :
    IsLongest (fraction * (1 + exponent)) chars (point + exponentReach (chars.drop point)) :=
  fractionFirst.mul (isLongest_exponent _) madeOf_fraction opens_perhaps

theorem beginsWith_digits {c : Char} {rest : List Char} :
    BeginsWith digits (c :: rest) ↔ c.isDigit = true := by
  rw [(isLongest_digits (c :: rest)).beginsWith_iff nil_notMem_digits]
  cases digit : c.isDigit <;> simp [reach, digit]

theorem beginsWith_fraction {c : Char} {rest : List Char} :
    BeginsWith fraction (c :: rest) ↔ c = '.' ∧ followedBy Char.isDigit rest = true := by
  rw [(isLongest_fraction (c :: rest)).beginsWith_iff nil_notMem_fraction, fractionReach_eq]
  cases rest with
  | nil => simp [markedReach, reach, followedBy]
  | cons d rest =>
      by_cases point : c = '.' <;> cases digit : d.isDigit <;>
        simp [markedReach, isPoint, reach, followedBy, point, digit]

/-! ## Number tokens -/

theorem munch_of_isDigit {alphabet : Alphabet} {c : Char} (digit : c.isDigit = true)
    (rest : List Char) : munch alphabet c rest = (.number, numberReach rest) := by
  unfold munch
  split <;> first
    | exact absurd digit (by decide)
    | exact if_pos digit

theorem munch_of_point {alphabet : Alphabet} {rest : List Char}
    (digit : followedBy Char.isDigit rest = true) :
    munch alphabet '.' rest = (.number, pointedReach rest) := by
  simp [munch, digit]

/-- Only a digit, or a point before a digit, makes a number. -/
theorem munch_ne_number (alphabet : Alphabet) {c : Char} {rest : List Char}
    (plain : ¬ c.isDigit = true) (pointless : ¬ (c = '.' ∧ followedBy Char.isDigit rest = true)) :
    (munch alphabet c rest).1 ≠ .number := by
  unfold munch
  split <;> (try split_ifs) <;> first
    | exact nameKind_ne _ (by decide)
    | exact nofun

theorem isLongest_of_isDigit {c : Char} (digit : c.isDigit = true) (rest : List Char) :
    IsLongest literal (c :: rest) (numberReach rest + 1) := by
  have noFraction : ¬ BeginsWith (fraction * (1 + exponent)) (c :: rest) := by
    intro begins
    rcases (beginsWith_fraction.mp begins.left_of_mul).1 with rfl
    exact absurd digit (by decide)
  have counted : reach Char.isDigit (c :: rest) = reach Char.isDigit rest + 1 := by
    simp [reach, digit]
  have some : IsLongest digits (c :: rest) (reach Char.isDigit rest + 1) :=
    counted ▸ (isLongest_digits (c :: rest)).of_pos (counted ▸ Nat.succ_pos _)
  have longest := (isLongest_whole some).add_of_absent noFraction
  simp only [List.drop_succ_cons, Nat.add_right_comm _ 1] at longest
  exact longest

theorem isLongest_of_point {rest : List Char} (digit : followedBy Char.isDigit rest = true) :
    IsLongest literal ('.' :: rest) (pointedReach rest + 1) := by
  have noDigits : ¬ BeginsWith (digits * (1 + fraction) * (1 + exponent)) ('.' :: rest) := by
    intro begins
    exact absurd (beginsWith_digits.mp begins.left_of_mul.left_of_mul) (by decide)
  have positive : 0 < reach Char.isDigit rest := by
    cases rest with
    | nil => cases digit
    | cons d rest => simp_all [reach, followedBy]
  have counted : fractionReach ('.' :: rest) = reach Char.isDigit rest + 1 := by
    rw [fractionReach_eq, markedReach, if_pos ⟨rfl, positive⟩]
  have some : IsLongest fraction ('.' :: rest) (reach Char.isDigit rest + 1) :=
    counted ▸ (isLongest_fraction _).of_pos (counted ▸ Nat.succ_pos _)
  have longest := (isLongest_pointed some).add_of_absent noDigits
  simp only [List.drop_succ_cons, Nat.add_right_comm _ 1] at longest
  rw [literal, add_comm]
  exact longest

/-- A number reaches as far as any literal at its place.  The parts are taken
one after the other, and no part can give back a character that a later one
needs. -/
theorem munch_longest {alphabet : Alphabet} {c : Char} {rest : List Char}
    (number : (munch alphabet c rest).1 = .number) :
    IsLongest literal (c :: rest) ((munch alphabet c rest).2 + 1) := by
  by_cases digit : c.isDigit = true
  · rw [munch_of_isDigit digit]
    exact isLongest_of_isDigit digit rest
  · by_cases point : c = '.' ∧ followedBy Char.isDigit rest = true
    · rcases point with ⟨rfl, next⟩
      rw [munch_of_point next]
      exact isLongest_of_point next
    · exact absurd number (munch_ne_number alphabet digit point)

/-- A token is a number where the text goes on with a literal, and only there.
The lexer decides by one or two characters. -/
theorem munch_number_iff {alphabet : Alphabet} {c : Char} {rest : List Char} :
    (munch alphabet c rest).1 = .number ↔ BeginsWith literal (c :: rest) := by
  constructor
  · exact fun number => (munch_longest number).beginsWith
  · intro begins
    rcases BeginsWith.add.mp begins with whole | pointed
    · rw [munch_of_isDigit (beginsWith_digits.mp whole.left_of_mul.left_of_mul)]
    · rcases beginsWith_fraction.mp pointed.left_of_mul with ⟨rfl, digit⟩
      rw [munch_of_point digit]

/-! ## Literals that end -/

theorem IsLongest.unique {language : Language Char} {chars : List Char} {count other : Nat}
    (left : IsLongest language chars count) (right : IsLongest language chars other) :
    count = other := by
  have fewer := right.longest _ left.member (List.take_prefix count chars)
  have more := left.longest _ right.member (List.take_prefix other chars)
  rw [List.length_take_of_le left.within] at fewer
  rw [List.length_take_of_le right.within] at more
  exact Nat.le_antisymm fewer more

/-- A text is the longest one where nothing follows that could belong to it. -/
theorem isLongest_of_stops {test : Char → Bool} {language : Language Char} {text rest : List Char}
    (inside : text ∈ language) (made : MadeOf test language)
    (stops : ∀ c ∈ rest.head?, test c = false) :
    IsLongest language (text ++ rest) text.length where
  within := by
    rw [List.length_append]
    exact Nat.le_add_right _ _
  member := List.take_left.symm ▸ inside
  longest := by
    intro other inOther ahead
    by_contra longer
    cases rest with
    | nil => exact longer (by simpa using ahead.length_le)
    | cons c rest =>
        have reached : text ++ [c] <+: other := by
          refine List.prefix_of_prefix_length_le ?_ ahead (by simpa using Nat.succ_le_of_lt (Nat.lt_of_not_le longer))
          exact (List.prefix_append (text ++ [c]) rest).trans (by simp)
        have belongs := made other inOther c (reached.subset (by simp))
        rw [stops c rfl] at belongs
        cases belongs

/-- The characters of literals. -/
def inLiteral (c : Char) : Bool :=
  c.isDigit || isPoint c || isSign c || marksExponent c

theorem madeOf_literal : MadeOf inLiteral literal := by
  have ofDigits : MadeOf inLiteral digits := .digits fun c digit => by simp [inLiteral, digit]
  have ofFraction : MadeOf inLiteral fraction :=
    .mul (.oneOf fun c point => by simp [inLiteral, point]) ofDigits
  have ofExponent : MadeOf inLiteral exponent :=
    .mul (.oneOf fun c marks => by simp [inLiteral, marks])
      (ofDigits.add (.mul (.oneOf fun c signs => by simp [inLiteral, signs]) ofDigits))
  exact ((ofDigits.mul ofFraction.perhaps).mul ofExponent.perhaps).add
    (ofFraction.mul ofExponent.perhaps)

theorem munch_literal {alphabet : Alphabet} {c : Char} {others rest : List Char}
    (written : c :: others ∈ literal) (stops : ∀ d ∈ rest.head?, inLiteral d = false) :
    munch alphabet c (others ++ rest) = (.number, others.length) := by
  have whole := isLongest_of_stops written madeOf_literal stops
  have number : (munch alphabet c (others ++ rest)).1 = .number :=
    munch_number_iff.mpr whole.beginsWith
  exact Prod.ext number (Nat.succ_injective ((munch_longest number).unique whole))

end Language
end Optimum
