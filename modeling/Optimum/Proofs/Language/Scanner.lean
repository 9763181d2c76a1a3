import Optimum.Proofs.Language.Lexing

namespace Optimum
namespace Language

/-!
# Reading a text character by character

The lexer answers with counts of characters, and what it takes is a piece of the
text by its form.  A scanner works without such counts: it moves by one
character at a time, keeps the number of bytes that it has passed, and cuts a
token out of the text between two of these numbers.  Here it has to be shown
that the scanner moves at all (`progresses_scan`), since otherwise it would not
end, and that both numbers fall between characters (`slice_eq`).

Both read the same tokens (`scannedTokens_eq`).  That the lexer loses nothing is
proved of the scanner, where offsets and characters are kept apart, and carried
over.
-/

/-- A place in a text: the characters ahead of it and the number of the bytes
behind it.  The text itself is not part of it, so a scanner may stand in no text
at all. -/
structure Scanner where
  ahead : List Char
  position : Nat

namespace Scanner

/-! ## Moves -/

def peek (scanner : Scanner) : Option Char :=
  scanner.ahead.head?

@[simp] theorem peek_cons (c : Char) (rest : List Char) (position : Nat) :
    peek ⟨c :: rest, position⟩ = some c :=
  rfl

def peekNext (scanner : Scanner) : Option Char :=
  scanner.ahead.tail.head?

/-- Pass one character.  Every other move is made of this one, so an offset
never falls inside of a character. -/
def advance : Scanner → Scanner
  | ⟨[], position⟩ => ⟨[], position⟩
  | ⟨c :: rest, position⟩ => ⟨rest, position + c.utf8Size⟩

@[simp] theorem advance_cons (c : Char) (rest : List Char) (position : Nat) :
    advance ⟨c :: rest, position⟩ = ⟨rest, position + c.utf8Size⟩ :=
  rfl

/-- Pass the characters up to the first that fails the test.  It ends because
every pass leaves fewer characters ahead. -/
def advanceWhile (test : Char → Bool) : Scanner → Scanner
  | ⟨[], position⟩ => ⟨[], position⟩
  | ⟨c :: rest, position⟩ =>
    if test c then advanceWhile test (advance ⟨c :: rest, position⟩) else ⟨c :: rest, position⟩
termination_by scanner => scanner.ahead.length

/-- Pass the closing mark of a block comment and all that is before it.  Without
a mark the comment goes on to the end of the text. -/
def advanceThroughMark : Scanner → Scanner
  | ⟨[], position⟩ => ⟨[], position⟩
  | ⟨c :: rest, position⟩ =>
    if c = '*' ∧ rest.head? = some '/' then advance (advance ⟨c :: rest, position⟩)
    else advanceThroughMark (advance ⟨c :: rest, position⟩)
termination_by scanner => scanner.ahead.length

/-- Pass the closing quote of a string and all that is before it.  A line end
closes the string as well, but it is not passed. -/
def advanceThroughQuote : Scanner → Scanner
  | ⟨[], position⟩ => ⟨[], position⟩
  | ⟨c :: rest, position⟩ =>
    if c = '"' then advance ⟨c :: rest, position⟩
    else if c = '\n' then ⟨c :: rest, position⟩
    else advanceThroughQuote (advance ⟨c :: rest, position⟩)
termination_by scanner => scanner.ahead.length

/-! ## Tokens -/

def lineComment (scanner : Scanner) : Scanner :=
  scanner.advanceWhile (· ≠ '\n')

def blockComment (scanner : Scanner) : Scanner :=
  scanner.advance.advance.advanceThroughMark

def string (scanner : Scanner) : Scanner :=
  scanner.advance.advanceThroughQuote

def digits (scanner : Scanner) : Scanner :=
  scanner.advanceWhile Char.isDigit

/-- Pass a point with the digits behind it, if there is a digit.  The point is
looked at together with what is behind it, so nothing is given back. -/
def fraction (scanner : Scanner) : Scanner :=
  if scanner.peek = some '.' ∧ scanner.peekNext.any Char.isDigit then scanner.advance.digits
  else scanner

/-- Pass a sign, if one is next. -/
def sign (scanner : Scanner) : Scanner :=
  if scanner.peek = some '+' ∨ scanner.peek = some '-' then scanner.advance else scanner

/-- Pass the mark of an exponent with its sign and digits, if there is a digit
behind the sign. -/
def exponent (scanner : Scanner) : Scanner :=
  if scanner.peek = some 'e' ∨ scanner.peek = some 'E' then
    if scanner.advance.sign.peek.any Char.isDigit then scanner.advance.sign.digits else scanner
  else scanner

def number (scanner : Scanner) : Scanner :=
  scanner.digits.fraction.exponent

def name (alphabet : Alphabet) (scanner : Scanner) : Scanner :=
  scanner.advanceWhile alphabet.continuesName

/-- The piece of a text between two places, cut out by their offsets.  It is
only known to be what was passed once the places are known to stand in the
text. -/
def slice (source : String) (start stop : Scanner) : String :=
  String.Pos.Raw.extract source ⟨start.position⟩ ⟨stop.position⟩

/-- Pass a comment, or a slash that opens none. -/
def commentOrSlash (scanner : Scanner) : TokenKind × Scanner :=
  if scanner.peekNext = some '/' then (.comment, scanner.lineComment)
  else if scanner.peekNext = some '*' then (.comment, scanner.blockComment)
  else (.slash, scanner.advance)

/-- Pass a mark and the equals sign behind it, if there is one. -/
def markWithEquals (joined alone : TokenKind) (scanner : Scanner) : TokenKind × Scanner :=
  if scanner.advance.peek = some '=' then (joined, scanner.advance.advance)
  else (alone, scanner.advance)

/-- Pass a number or a name that begins with `c`, or a character that begins no
token.  Whether a name is a keyword is told from its slice. -/
def numberOrName (alphabet : Alphabet) (source : String) (c : Char) (scanner : Scanner) :
    TokenKind × Scanner :=
  if c.isDigit then (.number, scanner.number)
  else if c = '.' ∧ scanner.peekNext.any Char.isDigit then (.number, scanner.number)
  else if alphabet.startsName c then
    (nameKind (slice source scanner (scanner.name alphabet)).toList, scanner.name alphabet)
  else (.error, scanner.advance)

/-- Pass the token that begins with `c`, which is next.  Nothing in its
definition says that it moves at all; that it does is shown for each branch. -/
def scan (alphabet : Alphabet) (source : String) (c : Char) (scanner : Scanner) :
    TokenKind × Scanner :=
  match c with
  | '\n' => (.newline, scanner.advance)
  | '/' => scanner.commentOrSlash
  | '"' => (.string, scanner.string)
  | '+' => (.plus, scanner.advance)
  | '-' => (.minus, scanner.advance)
  | '*' => (.star, scanner.advance)
  | '≤' => (.le, scanner.advance)
  | '≥' => (.ge, scanner.advance)
  | '<' => scanner.markWithEquals .le .error
  | '>' => scanner.markWithEquals .ge .error
  | '=' => scanner.markWithEquals .eq .eq
  | ':' => (.colon, scanner.advance)
  | ';' => (.semicolon, scanner.advance)
  | ',' => (.comma, scanner.advance)
  | '{' => (.leftBrace, scanner.advance)
  | '}' => (.rightBrace, scanner.advance)
  | '[' => (.leftBracket, scanner.advance)
  | ']' => (.rightBracket, scanner.advance)
  | '(' => (.leftParen, scanner.advance)
  | ')' => (.rightParen, scanner.advance)
  | c => numberOrName alphabet source c scanner

/-! ## What a move keeps -/

/-- The characters of a text are passed, and their bytes are counted.  The two
always go together, which is why offsets stay those of characters. -/
structure Passes (start : Scanner) (text : List Char) (stop : Scanner) : Prop where
  ahead : start.ahead = text ++ stop.ahead
  position : stop.position = start.position + byteCount text

/-- Some characters are passed, perhaps none. -/
def Reaches (start stop : Scanner) : Prop :=
  ∃ text, Passes start text stop

/-- At least one character is passed.  Tokens do, and the parts of a token
only reach: a fraction or an exponent may be empty, but never what comes
before it. -/
def Progresses (start stop : Scanner) : Prop :=
  ∃ text, text ≠ [] ∧ Passes start text stop

variable {start middle stop scanner : Scanner}

theorem Passes.trans {first second : List Char} (before : Passes start first middle)
    (behind : Passes middle second stop) : Passes start (first ++ second) stop where
  ahead := by rw [before.ahead, behind.ahead, List.append_assoc]
  position := by rw [behind.position, before.position, byteCount_append, Nat.add_assoc]

theorem Reaches.refl (scanner : Scanner) : Reaches scanner scanner :=
  ⟨[], rfl, rfl⟩

theorem Reaches.trans (before : Reaches start middle) (behind : Reaches middle stop) :
    Reaches start stop := by
  rcases before with ⟨first, passesFirst⟩
  rcases behind with ⟨second, passesSecond⟩
  exact ⟨first ++ second, passesFirst.trans passesSecond⟩

theorem Progresses.trans (before : Progresses start middle) (behind : Reaches middle stop) :
    Progresses start stop := by
  rcases before with ⟨first, nonempty, passesFirst⟩
  rcases behind with ⟨second, passesSecond⟩
  exact ⟨first ++ second, List.append_ne_nil_of_left_ne_nil nonempty second,
    passesFirst.trans passesSecond⟩

theorem Reaches.length_le (reaches : Reaches start stop) :
    stop.ahead.length ≤ start.ahead.length := by
  rcases reaches with ⟨text, passes⟩
  rw [passes.ahead, List.length_append]
  exact Nat.le_add_left _ _

theorem Progresses.length_lt (progresses : Progresses start stop) :
    stop.ahead.length < start.ahead.length := by
  rcases progresses with ⟨text, nonempty, passes⟩
  rw [passes.ahead, List.length_append]
  exact Nat.lt_add_of_pos_left (List.length_pos_iff.mpr nonempty)

theorem passes_advance (c : Char) (rest : List Char) (position : Nat) :
    Passes ⟨c :: rest, position⟩ [c] (advance ⟨c :: rest, position⟩) :=
  ⟨rfl, rfl⟩

theorem reaches_advance (scanner : Scanner) : Reaches scanner scanner.advance := by
  rcases scanner with ⟨_ | ⟨c, rest⟩, position⟩
  · exact .refl _
  · exact ⟨[c], passes_advance c rest position⟩

theorem progresses_advance {c : Char} (next : scanner.peek = some c) :
    Progresses scanner scanner.advance := by
  rcases scanner with ⟨_ | ⟨d, rest⟩, position⟩
  · cases next
  · exact ⟨[d], List.cons_ne_nil _ _, passes_advance d rest position⟩

theorem passes_advanceWhile (test : Char → Bool) (scanner : Scanner) :
    Passes scanner (scanner.ahead.takeWhile test) (scanner.advanceWhile test) := by
  induction scanner using advanceWhile.induct test with
  | case1 position =>
      rw [advanceWhile]
      exact ⟨rfl, rfl⟩
  | case2 c rest position passes inductionHypothesis =>
      rw [advanceWhile, if_pos passes, List.takeWhile_cons_of_pos passes]
      exact (passes_advance c rest position).trans inductionHypothesis
  | case3 c rest position fails =>
      rw [advanceWhile, if_neg fails, List.takeWhile_cons_of_neg fails]
      exact ⟨rfl, rfl⟩

/-- The first character that is not passed fails the test. -/
theorem fails_of_peek {test : Char → Bool} {c : Char}
    (next : (scanner.advanceWhile test).peek = some c) : test c = false := by
  induction scanner using advanceWhile.induct test with
  | case1 position =>
      rw [advanceWhile] at next
      cases next
  | case2 d rest position passes inductionHypothesis =>
      rw [advanceWhile, if_pos passes] at next
      exact inductionHypothesis next
  | case3 d rest position fails =>
      rw [advanceWhile, if_neg fails] at next
      rcases Option.some.inj next with rfl
      exact Bool.eq_false_iff.mpr fails

theorem reaches_advanceWhile (test : Char → Bool) (scanner : Scanner) :
    Reaches scanner (scanner.advanceWhile test) :=
  ⟨_, passes_advanceWhile test scanner⟩

theorem progresses_advanceWhile {test : Char → Bool} {c : Char} (next : scanner.peek = some c)
    (passes : test c = true) : Progresses scanner (scanner.advanceWhile test) := by
  rcases scanner with ⟨_ | ⟨d, rest⟩, position⟩
  · cases next
  · rcases Option.some.inj next with rfl
    rw [advanceWhile, if_pos passes]
    exact (progresses_advance next).trans (reaches_advanceWhile test _)

theorem reaches_advanceThroughMark (scanner : Scanner) :
    Reaches scanner scanner.advanceThroughMark := by
  induction scanner using advanceThroughMark.induct with
  | case1 position =>
      rw [advanceThroughMark]
      exact .refl _
  | case2 c rest position closes =>
      rw [advanceThroughMark, if_pos closes]
      exact (reaches_advance _).trans (reaches_advance _)
  | case3 c rest position further inductionHypothesis =>
      rw [advanceThroughMark, if_neg further]
      exact (reaches_advance _).trans inductionHypothesis

theorem reaches_advanceThroughQuote (scanner : Scanner) :
    Reaches scanner scanner.advanceThroughQuote := by
  induction scanner using advanceThroughQuote.induct with
  | case1 position =>
      rw [advanceThroughQuote]
      exact .refl _
  | case2 rest position =>
      rw [advanceThroughQuote, if_pos rfl]
      exact reaches_advance _
  | case3 rest position noQuote =>
      rw [advanceThroughQuote, if_neg noQuote, if_pos rfl]
      exact .refl _
  | case4 c rest position noQuote noBreak inductionHypothesis =>
      rw [advanceThroughQuote, if_neg noQuote, if_neg noBreak]
      exact (reaches_advance _).trans inductionHypothesis

/-! ## Progress, token by token -/

theorem reaches_fraction (scanner : Scanner) : Reaches scanner scanner.fraction := by
  rw [fraction]
  split
  · exact (reaches_advance scanner).trans (reaches_advanceWhile _ _)
  · exact .refl _

theorem reaches_sign (scanner : Scanner) : Reaches scanner scanner.sign := by
  rw [sign]
  split
  · exact reaches_advance scanner
  · exact .refl _

theorem reaches_exponent (scanner : Scanner) : Reaches scanner scanner.exponent := by
  rw [exponent]
  split
  · split
    · exact (reaches_advance scanner).trans ((reaches_sign _).trans (reaches_advanceWhile _ _))
    · exact .refl _
  · exact .refl _

theorem progresses_lineComment (next : scanner.peek = some '/') :
    Progresses scanner scanner.lineComment :=
  progresses_advanceWhile next (by decide)

theorem progresses_blockComment (next : scanner.peek = some '/') :
    Progresses scanner scanner.blockComment :=
  (progresses_advance next).trans
    ((reaches_advance _).trans (reaches_advanceThroughMark _))

theorem progresses_string {c : Char} (next : scanner.peek = some c) :
    Progresses scanner scanner.string :=
  (progresses_advance next).trans (reaches_advanceThroughQuote _)

/-- A number begins with a digit or with a point before a digit, and either is
passed. -/
theorem progresses_number {c : Char} (next : scanner.peek = some c)
    (begins : c.isDigit = true ∨ c = '.' ∧ scanner.peekNext.any Char.isDigit = true) :
    Progresses scanner scanner.number := by
  rcases begins with digit | ⟨rfl, pointed⟩
  · exact (progresses_advanceWhile next digit).trans
      ((reaches_fraction _).trans (reaches_exponent _))
  · have none : scanner.digits = scanner := by
      rcases scanner with ⟨_ | ⟨c, rest⟩, position⟩
      · cases next
      · rcases Option.some.inj next with rfl
        rw [digits, advanceWhile, if_neg (by decide)]
    rw [number, none, fraction, if_pos ⟨next, pointed⟩]
    exact (progresses_advance next).trans
      ((reaches_advanceWhile _ _).trans (reaches_exponent _))

theorem continuesName_of_startsName {alphabet : Alphabet} {c : Char}
    (begins : alphabet.startsName c = true) : alphabet.continuesName c = true := by
  simp only [Alphabet.startsName, Alphabet.continuesName, Bool.or_eq_true] at begins ⊢
  exact begins.imp_left (alphabet.isAlphanumeric_of_isLetter c)

theorem progresses_name {alphabet : Alphabet} {c : Char} (next : scanner.peek = some c)
    (begins : alphabet.startsName c = true) : Progresses scanner (scanner.name alphabet) :=
  progresses_advanceWhile next (continuesName_of_startsName begins)

theorem progresses_commentOrSlash (next : scanner.peek = some '/') :
    Progresses scanner scanner.commentOrSlash.2 := by
  rw [commentOrSlash]
  split_ifs
  · exact progresses_lineComment next
  · exact progresses_blockComment next
  · exact progresses_advance next

theorem progresses_markWithEquals {c : Char} (next : scanner.peek = some c)
    (joined alone : TokenKind) : Progresses scanner (scanner.markWithEquals joined alone).2 := by
  rw [markWithEquals]
  split
  · exact (progresses_advance next).trans (reaches_advance _)
  · exact progresses_advance next

theorem progresses_numberOrName (alphabet : Alphabet) (source : String) {c : Char}
    (next : scanner.peek = some c) :
    Progresses scanner (numberOrName alphabet source c scanner).2 := by
  rw [numberOrName]
  split_ifs with digit pointed begins
  · exact progresses_number next (.inl digit)
  · exact progresses_number next (.inr pointed)
  · exact progresses_name next begins
  · exact progresses_advance next

/-- Every token passes at least one character.  A number needs more than its
first character to be looked at, and a name more than the test for its
letters. -/
theorem progresses_scan (alphabet : Alphabet) (source : String) {c : Char}
    (next : scanner.peek = some c) : Progresses scanner (scan alphabet source c scanner).2 := by
  unfold scan
  split
  case h_2 => exact progresses_commentOrSlash next
  case h_3 => exact progresses_string next
  case h_9 | h_10 | h_11 => exact progresses_markWithEquals next _ _
  case h_21 => exact progresses_numberOrName alphabet source next
  all_goals exact progresses_advance next

/-! ## The tokens of a text -/

def skipBlanks (scanner : Scanner) : Scanner :=
  scanner.advanceWhile isBlank

theorem passes_skipBlanks (scanner : Scanner) :
    ∃ blanks, (∀ c ∈ blanks, isBlank c = true) ∧ Passes scanner blanks scanner.skipBlanks :=
  ⟨_, List.all_eq_true.mp List.all_takeWhile, passes_advanceWhile isBlank scanner⟩

/-- The tokens from a place on, closed by the token that marks the end.  The
recursion is on the characters ahead, and it ends because each token makes
progress. -/
def tokens (alphabet : Alphabet) (source : String) (scanner : Scanner) : List Token :=
  let start := scanner.skipBlanks
  match _ : start.peek with
  | none => [⟨.endOfFile, ⟨start.position, start.position⟩, ""⟩]
  | some c =>
    let scanned := scan alphabet source c start
    ⟨scanned.1, ⟨start.position, scanned.2.position⟩, slice source start scanned.2⟩ ::
      tokens alphabet source scanned.2
termination_by scanner.ahead.length
decreasing_by
  have further : scanned.2.ahead.length < scanner.skipBlanks.ahead.length :=
    (progresses_scan alphabet source ‹start.peek = some c›).length_lt
  exact Nat.lt_of_lt_of_le further (reaches_advanceWhile isBlank scanner).length_le

/-- The scanner stands in the text: the characters that it has passed and those
ahead of it spell the text. -/
def StandsIn (source : String) (scanner : Scanner) : Prop :=
  ∃ before, source.toList = before ++ scanner.ahead ∧ scanner.position = byteCount before

theorem standsIn_beginning (source : String) : StandsIn source ⟨source.toList, 0⟩ :=
  ⟨[], rfl, rfl⟩

theorem StandsIn.reaches {source : String} (stands : StandsIn source start)
    (reaches : Reaches start stop) : StandsIn source stop := by
  rcases stands with ⟨before, spelling, offset⟩
  rcases reaches with ⟨text, passes⟩
  refine ⟨before ++ text, ?_, ?_⟩
  · rw [spelling, passes.ahead, List.append_assoc]
  · rw [passes.position, offset, byteCount_append]

/-- The slice between two places holds the characters that are passed from one
to the other. -/
theorem slice_eq {source : String} (stands : StandsIn source start) {text : List Char}
    (passes : Passes start text stop) : slice source start stop = String.ofList text := by
  rcases stands with ⟨before, spelling, offset⟩
  have shown : source = String.ofList (before ++ text ++ stop.ahead) := by
    rw [List.append_assoc, ← passes.ahead, ← spelling, String.ofList_toList]
  rw [slice, passes.position, offset, byteCount_eq, byteCount_eq, shown]
  exact String.extract_of_valid before text stop.ahead

theorem scan_ne_endOfFile (alphabet : Alphabet) (source : String) (c : Char) (scanner : Scanner) :
    (scan alphabet source c scanner).1 ≠ .endOfFile := by
  unfold scan commentOrSlash markWithEquals numberOrName
  split <;> (try split_ifs) <;> first
    | exact nameKind_ne _ (by decide)
    | exact nofun

theorem spelled_blanks {position : Nat} {chars blanks : List Char} {tokens : List Token}
    (separate : ∀ c ∈ blanks, isBlank c = true)
    (others : Spelled (position + byteCount blanks) chars tokens) :
    Spelled position (blanks ++ chars) tokens := by
  induction blanks generalizing position with
  | nil => exact others
  | cons c blanks inductionHypothesis =>
      rcases List.forall_mem_cons.mp separate with ⟨first, later⟩
      rw [byteCount, ← Nat.add_assoc] at others
      exact .blank first (inductionHypothesis later others)

theorem tokens_of_peek_eq_none {alphabet : Alphabet} {source : String}
    (next : scanner.skipBlanks.peek = none) :
    tokens alphabet source scanner =
      [⟨.endOfFile, ⟨scanner.skipBlanks.position, scanner.skipBlanks.position⟩, ""⟩] := by
  rw [tokens]
  split
  · rfl
  · next other => cases next.symm.trans other

theorem tokens_of_peek_eq_some {alphabet : Alphabet} {source : String} {c : Char}
    (next : scanner.skipBlanks.peek = some c) :
    tokens alphabet source scanner =
      ⟨(scan alphabet source c scanner.skipBlanks).1,
        ⟨scanner.skipBlanks.position, (scan alphabet source c scanner.skipBlanks).2.position⟩,
        slice source scanner.skipBlanks (scan alphabet source c scanner.skipBlanks).2⟩ ::
      tokens alphabet source (scan alphabet source c scanner.skipBlanks).2 := by
  rw [tokens]
  split
  · next other => cases next.symm.trans other
  · next d other =>
      cases next.symm.trans other
      rfl

/-- The scanner spells the text from its place on.  The induction is on the
tokens: blanks are passed, and then some characters that the slice returns. -/
theorem spelled_tokens (alphabet : Alphabet) (source : String) (scanner : Scanner)
    (stands : StandsIn source scanner) :
    Spelled scanner.position scanner.ahead (tokens alphabet source scanner) := by
  induction scanner using tokens.induct alphabet source with
  | case1 scanner start next =>
      rcases passes_skipBlanks scanner with ⟨blanks, separate, skipped⟩
      have ended : start.ahead = [] := List.head?_eq_none_iff.mp next
      rw [tokens_of_peek_eq_none next, skipped.ahead, ended]
      refine spelled_blanks separate ?_
      rw [← skipped.position]
      exact .finish start.position
  | case2 scanner start c next scanned inductionHypothesis =>
      rcases passes_skipBlanks scanner with ⟨blanks, separate, skipped⟩
      have here : StandsIn source start := stands.reaches ⟨blanks, skipped⟩
      rcases progresses_scan alphabet source next with ⟨text, nonempty, passes⟩
      have others := inductionHypothesis (here.reaches ⟨text, passes⟩)
      rw [tokens_of_peek_eq_some next, skipped.ahead, passes.ahead, slice_eq here passes]
      refine spelled_blanks separate ?_
      rw [← skipped.position]
      rw [passes.position] at others ⊢
      exact .token (scan_ne_endOfFile alphabet source c start) nonempty others

end Scanner

end Language
end Optimum
