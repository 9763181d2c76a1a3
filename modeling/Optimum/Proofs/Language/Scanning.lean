import Optimum.Proofs.Language.Scanner

namespace Optimum
namespace Language

/-!
# The lexer and the scanner

The lexer answers with counts of characters, so its tokens are pieces of the
text by their form.  Here each count is shown to be the number of characters
that the scanner passes (`Scanner.scan_agrees`), token class by token class.
The two therefore read the same tokens (`scannedTokens_eq`), and that no token
loses or invents a character carries over from the scanner, where it had to be
kept up along every move.
-/

namespace Scanner

/-! ## The same tokens by counting -/

theorem ahead_advanceWhile (test : Char → Bool) (scanner : Scanner) :
    (scanner.advanceWhile test).ahead = scanner.ahead.drop (reach test scanner.ahead) := by
  have passes := (passes_advanceWhile test scanner).ahead
  rw [← takeWhile_of_reach] at passes
  exact List.append_cancel_left (passes.symm.trans (List.take_append_drop _ _).symm)

theorem ahead_advanceThroughMark (scanner : Scanner) :
    scanner.advanceThroughMark.ahead = scanner.ahead.drop (blockReach scanner.ahead) := by
  induction scanner using advanceThroughMark.induct with
  | case1 position =>
      rw [advanceThroughMark]
      rfl
  | case2 c rest position closes =>
      rw [advanceThroughMark, if_pos closes]
      rcases closes with ⟨rfl, second⟩
      rcases List.head?_eq_some_iff.mp second with ⟨others, rfl⟩
      rfl
  | case3 c rest position further inductionHypothesis =>
      rw [advanceThroughMark, if_neg further, inductionHypothesis, advance_cons, blockReach]
      · rfl
      · rintro others rfl rfl
        exact further ⟨rfl, rfl⟩

theorem ahead_advanceThroughQuote (scanner : Scanner) :
    scanner.advanceThroughQuote.ahead = scanner.ahead.drop (stringReach scanner.ahead) := by
  induction scanner using advanceThroughQuote.induct with
  | case1 position =>
      rw [advanceThroughQuote]
      rfl
  | case2 rest position =>
      rw [advanceThroughQuote, if_pos rfl]
      rfl
  | case3 rest position noQuote =>
      rw [advanceThroughQuote, if_neg noQuote, if_pos rfl]
      rfl
  | case4 c rest position noQuote noBreak inductionHypothesis =>
      rw [advanceThroughQuote, if_neg noQuote, if_neg noBreak, inductionHypothesis, advance_cons,
        stringReach]
      · rfl
      · exact noQuote
      · exact noBreak

theorem ahead_digits (scanner : Scanner) :
    scanner.digits.ahead = scanner.ahead.drop (reach Char.isDigit scanner.ahead) :=
  ahead_advanceWhile Char.isDigit scanner

theorem reach_cons_of_pos {test : Char → Bool} {c : Char} (passes : test c = true)
    (rest : List Char) : reach test (c :: rest) = reach test rest + 1 := by
  rw [reach, List.takeWhile_cons_of_pos passes, List.length_cons, reach]

theorem reach_cons_of_neg {test : Char → Bool} {c : Char} (fails : ¬ test c = true)
    (rest : List Char) : reach test (c :: rest) = 0 := by
  rw [reach, List.takeWhile_cons_of_neg fails, List.length_nil]

theorem ahead_fraction (scanner : Scanner) :
    scanner.fraction.ahead = scanner.ahead.drop (fractionReach scanner.ahead) := by
  rw [fraction]
  split
  · next pointed =>
      rcases scanner with ⟨_ | ⟨c, _ | ⟨d, rest⟩⟩, position⟩
      · cases pointed.1
      · cases pointed.2
      · rcases pointed with ⟨point, digit : d.isDigit = true⟩
        rcases Option.some.inj point with rfl
        rw [fractionReach, if_pos digit, ahead_digits, advance_cons, reach_cons_of_pos digit,
          Nat.add_comm 2]
        rfl
  · next none =>
      rcases scanner with ⟨_ | ⟨c, _ | ⟨d, rest⟩⟩, position⟩
      · rfl
      · rw [fractionReach]
        · rfl
        · rintro _ _ ⟨⟩
      · by_cases point : c = '.'
        · subst point
          have noDigit : ¬ d.isDigit = true := fun digit => none ⟨rfl, digit⟩
          rw [fractionReach, if_neg noDigit]
          rfl
        · rw [fractionReach]
          · rfl
          · rintro _ _ ⟨⟩
            exact point rfl

theorem sign_cons (c : Char) (rest : List Char) (position : Nat) :
    sign ⟨c :: rest, position⟩ =
      if c = '+' ∨ c = '-' then ⟨rest, position + c.utf8Size⟩ else ⟨c :: rest, position⟩ := by
  simp [sign]

theorem exponentDigits_sign {c : Char} (signed : c = '+' ∨ c = '-') (rest : List Char) :
    exponentDigits (c :: rest) =
      if reach Char.isDigit rest = 0 then 0 else reach Char.isDigit rest + 1 := by
  have noDigit : ¬ c.isDigit = true := by
    rcases signed with rfl | rfl <;> decide
  rw [exponentDigits, if_neg noDigit, if_pos signed]
  cases reach Char.isDigit rest <;> rfl

/-- The digits of an exponent are passed with the sign before them. -/
theorem ahead_signedDigits (scanner : Scanner) :
    if scanner.sign.peek.any Char.isDigit then
      0 < exponentDigits scanner.ahead ∧
        scanner.sign.digits.ahead = scanner.ahead.drop (exponentDigits scanner.ahead)
    else exponentDigits scanner.ahead = 0 := by
  rcases scanner with ⟨_ | ⟨c, rest⟩, position⟩
  · rfl
  · rw [sign_cons]
    by_cases signed : c = '+' ∨ c = '-'
    · rw [if_pos signed, exponentDigits_sign signed]
      cases rest with
      | nil => rfl
      | cons d rest =>
          rw [peek_cons, Option.any_some]
          by_cases digit : d.isDigit = true
          · rw [if_pos digit, ahead_digits, reach_cons_of_pos digit, if_neg (Nat.succ_ne_zero _)]
            exact ⟨Nat.succ_pos _, rfl⟩
          · rw [if_neg digit, reach_cons_of_neg digit, if_pos rfl]
    · rw [if_neg signed, exponentDigits, peek_cons, Option.any_some]
      by_cases digit : c.isDigit = true
      · rw [if_pos digit, if_pos digit, ahead_digits, reach_cons_of_pos digit, Nat.add_comm 1]
        exact ⟨Nat.succ_pos _, rfl⟩
      · rw [if_neg digit, if_neg digit, if_neg signed]

theorem ahead_exponent (scanner : Scanner) :
    scanner.exponent.ahead = scanner.ahead.drop (exponentReach scanner.ahead) := by
  rcases scanner with ⟨_ | ⟨c, rest⟩, position⟩
  · rfl
  · have counted := ahead_signedDigits (advance ⟨c :: rest, position⟩)
    have next : peek ⟨c :: rest, position⟩ = some 'e' ∨ peek ⟨c :: rest, position⟩ = some 'E' ↔
        c = 'e' ∨ c = 'E' := by
      simp
    rw [exponent, exponentReach]
    simp only [next]
    by_cases marks : c = 'e' ∨ c = 'E'
    · rw [if_pos marks, if_pos marks]
      split
      · next digit =>
          rw [if_pos digit, advance_cons] at counted
          rcases counted with ⟨positive, ahead⟩
          rcases Nat.exists_eq_add_one_of_ne_zero positive.ne' with ⟨count, shown⟩
          rw [advance_cons, ahead, shown]
          rfl
      · next none =>
          rw [if_neg none, advance_cons] at counted
          rw [counted]
          rfl
    · rw [if_neg marks, if_neg marks]
      rfl

variable {c : Char} {rest : List Char} {position : Nat}

theorem ahead_number (digit : c.isDigit = true) :
    (number ⟨c :: rest, position⟩).ahead = rest.drop (numberReach rest) := by
  simp only [number, ahead_exponent, ahead_fraction, ahead_digits, reach_cons_of_pos digit,
    List.drop_succ_cons, List.drop_drop, Nat.add_assoc, numberReach]

theorem ahead_pointedNumber (pointed : rest.head?.any Char.isDigit = true) :
    (number ⟨'.' :: rest, position⟩).ahead = rest.drop (pointedReach rest) := by
  cases rest with
  | nil => cases pointed
  | cons d rest =>
      have digit : d.isDigit = true := pointed
      have none : ¬ Char.isDigit '.' = true := by decide
      rw [number, ahead_exponent, ahead_fraction, ahead_digits, reach_cons_of_neg none,
        List.drop_zero, fractionReach, if_pos digit, Nat.add_comm 2, List.drop_succ_cons,
        List.drop_drop, pointedReach, reach_cons_of_pos digit]

theorem ahead_name {alphabet : Alphabet} (continues : alphabet.continuesName c = true) :
    (name alphabet ⟨c :: rest, position⟩).ahead =
      rest.drop (reach alphabet.continuesName rest) := by
  rw [name, ahead_advanceWhile, reach_cons_of_pos continues, List.drop_succ_cons]

theorem followedBy_iff (d : Char) (rest : List Char) :
    followedBy (· = d) rest = true ↔ rest.head? = some d := by
  cases rest with
  | nil => exact iff_of_false Bool.false_ne_true nofun
  | cons e rest => simp [followedBy]

theorem followedBy_eq_any (test : Char → Bool) (rest : List Char) :
    followedBy test rest = rest.head?.any test := by
  cases rest <;> rfl

/-- What is scanned is what was found by counting: the same class, and as many
characters passed as were counted. -/
structure Agrees (rest : List Char) (scanned : TokenKind × Scanner) (found : TokenKind × Nat) :
    Prop where
  kind : scanned.1 = found.1
  ahead : scanned.2.ahead = rest.drop found.2

theorem agrees_commentOrSlash :
    Agrees rest (commentOrSlash ⟨'/' :: rest, position⟩)
      (if followedBy (· = '/') rest then (.comment, reach (· ≠ '\n') rest)
      else if followedBy (· = '*') rest then (.comment, 1 + blockReach (rest.drop 1))
      else (.slash, 0)) := by
  simp only [followedBy_iff]
  change Agrees rest (if rest.head? = some '/' then _ else if rest.head? = some '*' then _ else _) _
  split_ifs with line block
  · refine ⟨rfl, ?_⟩
    rw [lineComment, ahead_advanceWhile, reach_cons_of_pos (by decide), List.drop_succ_cons]
  · rcases List.head?_eq_some_iff.mp block with ⟨others, rfl⟩
    refine ⟨rfl, ?_⟩
    rw [blockComment, advance_cons, advance_cons, ahead_advanceThroughMark]
    change _ = ('*' :: others).drop (1 + blockReach others)
    rw [Nat.add_comm 1, List.drop_succ_cons]
  · exact ⟨rfl, rfl⟩

theorem agrees_markWithEquals (joined alone : TokenKind) :
    Agrees rest (markWithEquals joined alone ⟨c :: rest, position⟩)
      (if followedBy (· = '=') rest then (joined, 1) else (alone, 0)) := by
  simp only [followedBy_iff]
  change Agrees rest (if rest.head? = some '=' then _ else _) _
  split_ifs with next
  · rcases List.head?_eq_some_iff.mp next with ⟨others, rfl⟩
    exact ⟨rfl, rfl⟩
  · exact ⟨rfl, rfl⟩

theorem agrees_numberOrName (alphabet : Alphabet) {source : String}
    (stands : StandsIn source ⟨c :: rest, position⟩) :
    Agrees rest (numberOrName alphabet source c ⟨c :: rest, position⟩)
      (if c.isDigit then (.number, numberReach rest)
      else if c = '.' ∧ followedBy Char.isDigit rest then (.number, pointedReach rest)
      else if alphabet.startsName c then
        (nameKind (c :: rest.take (reach alphabet.continuesName rest)),
          reach alphabet.continuesName rest)
      else (.error, 0)) := by
  rw [followedBy_eq_any]
  change Agrees rest (if _ then _ else if c = '.' ∧ rest.head?.any Char.isDigit then _ else _) _
  split_ifs with digit pointed begins
  · exact ⟨rfl, ahead_number digit⟩
  · rcases pointed with ⟨rfl, pointed⟩
    exact ⟨rfl, ahead_pointedNumber pointed⟩
  · have continues := continuesName_of_startsName begins
    have passes : Passes ⟨c :: rest, position⟩ _ (name alphabet ⟨c :: rest, position⟩) :=
      passes_advanceWhile alphabet.continuesName _
    refine ⟨?_, ahead_name continues⟩
    dsimp only
    rw [slice_eq stands passes, String.toList_ofList, List.takeWhile_cons_of_pos continues,
      takeWhile_of_reach]
  · exact ⟨rfl, rfl⟩

/-- The scanner takes the token that the lexer finds.  The cases are the
characters that a token begins with, and most of them only pass that
character. -/
theorem scan_agrees (alphabet : Alphabet) {source : String}
    (stands : StandsIn source ⟨c :: rest, position⟩) :
    Agrees rest (scan alphabet source c ⟨c :: rest, position⟩) (munch alphabet c rest) := by
  unfold scan
  split
  case h_2 => exact agrees_commentOrSlash
  case h_3 => exact ⟨rfl, ahead_advanceThroughQuote _⟩
  case h_9 => exact agrees_markWithEquals _ _
  case h_10 => exact agrees_markWithEquals _ _
  case h_11 =>
    have joined : munch alphabet '=' rest =
        if followedBy (· = '=') rest then (.eq, 1) else (.eq, 0) :=
      apply_ite (Prod.mk TokenKind.eq) _ 1 0
    rw [joined]
    exact agrees_markWithEquals _ _
  case h_21 =>
    rw [munch]
    · exact agrees_numberOrName alphabet stands
    all_goals assumption
  all_goals exact ⟨rfl, rfl⟩

theorem tokensFrom_blanks (alphabet : Alphabet) {blanks : List Char}
    (separate : ∀ c ∈ blanks, isBlank c = true) (position : Nat) (chars : List Char) :
    tokensFrom alphabet position (blanks ++ chars) =
      tokensFrom alphabet (position + byteCount blanks) chars := by
  induction blanks generalizing position with
  | nil => rfl
  | cons c blanks inductionHypothesis =>
      rcases List.forall_mem_cons.mp separate with ⟨first, later⟩
      rw [List.cons_append, tokensFrom, if_pos first, inductionHypothesis later, byteCount,
        Nat.add_assoc]

/-- The scanner and the lexer read the same tokens from every place of a text.
The lexer counts characters where the scanner moves over them. -/
theorem tokens_eq (alphabet : Alphabet) (source : String) (scanner : Scanner)
    (stands : StandsIn source scanner) :
    tokens alphabet source scanner = tokensFrom alphabet scanner.position scanner.ahead := by
  induction scanner using tokens.induct alphabet source with
  | case1 scanner start next =>
      rcases passes_skipBlanks scanner with ⟨blanks, separate, skipped⟩
      have ended : start.ahead = [] := List.head?_eq_none_iff.mp next
      rw [tokens_of_peek_eq_none next, skipped.ahead, tokensFrom_blanks alphabet separate,
        ← skipped.position, ended, tokensFrom]
  | case2 scanner start c next scanned inductionHypothesis =>
      rcases passes_skipBlanks scanner with ⟨blanks, separate, skipped⟩
      have here : StandsIn source start := stands.reaches ⟨blanks, skipped⟩
      rcases progresses_scan alphabet source next with ⟨text, -, passes⟩
      have others := inductionHypothesis (here.reaches ⟨text, passes⟩)
      rcases List.head?_eq_some_iff.mp next with ⟨rest, ahead⟩
      have shown : start = ⟨c :: rest, start.position⟩ := congrArg (Scanner.mk · _) ahead
      have agrees : Agrees rest scanned (munch alphabet c rest) := by
        change Agrees rest (scan alphabet source c start) _
        rw [shown] at here ⊢
        exact scan_agrees alphabet here
      have taken : text = c :: rest.take (munch alphabet c rest).2 := by
        have split := ahead.symm.trans passes.ahead
        rw [agrees.ahead] at split
        refine List.append_cancel_right (split.symm.trans ?_)
        rw [List.cons_append, List.take_append_drop]
      rw [tokens_of_peek_eq_some next, slice_eq here passes, skipped.ahead,
        tokensFrom_blanks alphabet separate, ← skipped.position, ahead, tokensFrom,
        if_neg (Bool.eq_false_iff.mp (fails_of_peek next)), others, agrees.kind, agrees.ahead,
        passes.position, taken]

end Scanner

/-! ## The lexer loses nothing -/

/-- The scanner that begins at a text reads the tokens of the lexer.  So what is
shown of either holds of both. -/
theorem scannedTokens_eq (alphabet : Alphabet) (source : String) :
    Scanner.tokens alphabet source ⟨source.toList, 0⟩ = tokenizeWith alphabet source :=
  Scanner.tokens_eq alphabet source _ (Scanner.standsIn_beginning source)

theorem spelled_tokenizeWith (alphabet : Alphabet) (source : String) :
    Spelled 0 source.toList (tokenizeWith alphabet source) := by
  rw [← scannedTokens_eq]
  exact Scanner.spelled_tokens alphabet source _ (Scanner.standsIn_beginning source)

/-- The lexer tells every text completely, whatever characters names are made
of.  It is shown of the scanner, whose tokens are slices between the places that
it comes to. -/
theorem tokenizeWith_lossless (alphabet : Alphabet) (source : String) :
    Lossless source (tokenizeWith alphabet source) :=
  (spelled_tokenizeWith alphabet source).lossless

-- The sign takes three bytes, so the number after it begins at the sixth.
example : (tokenize "x ≤ 4").map Token.span = [⟨0, 1⟩, ⟨2, 5⟩, ⟨6, 7⟩, ⟨7, 7⟩] := by decide +kernel

end Language
end Optimum
