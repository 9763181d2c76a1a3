import Optimum.Proofs.Language.DataTokens

namespace Optimum
namespace Language

/-!
# Lists and tables are read back

A reader takes a text for a value if it reads the value from the text behind
any gap, wherever the two stand.  Labels, numbers and rows are taken as entries,
so the lists of them are taken as well (`takes_entries`): the readers of the
three kinds of lists differ in nothing but their entries and their brackets.
-/

variable {β : Type}

/-- A reader takes the texts of a language for a value, behind any gap and
before whatever passes a test. -/
def Takes (language : Language Char) (ends : List Char → Prop)
    (reader : Cursor → Except ParseError (β × Cursor)) (value : β) : Prop :=
  ∀ before ∈ gap, ∀ text ∈ language, ∀ rest, ends rest → ∀ cursor : Cursor,
    cursor.Faces (before ++ (text ++ rest)) →
      ∃ next, reader cursor = .ok (value, next) ∧ next.Faces rest

def Anything (_ : List Char) : Prop :=
  True

/-- The classes of tokens that no entry begins with. -/
def partingKinds : List TokenKind :=
  [.rightBracket, .rightBrace, .comma, .newline, .comment, .semicolon]

/-- A reader takes the entries of lists, and nothing that parts two of them can
be mistaken for the beginning of one. -/
structure TakesEntries (form : β → Language Char)
    (entry : Cursor → Except ParseError (β × Cursor)) : Prop where
  takes : ∀ value, Takes (form value) Parted entry value
  avoids : ∀ value, ∀ text ∈ form value, ∀ rest, Parted rest → Avoids partingKinds (text ++ rest)

/-! ## Lists of entries -/

section Entries

variable {form : β → Language Char} {entry : Cursor → Except ParseError (β × Cursor)}

theorem avoids_listed (each : TakesEntries form entry) {value : β} {values : List β}
    {text rest : List Char} (inside : text ∈ listed form (value :: values)) (parted : Parted rest) :
    Avoids partingKinds (text ++ rest) := by
  cases values with
  | nil => exact each.avoids value text inside rest parted
  | cons next others =>
      rcases Language.mem_mul.mp inside with ⟨own, written, tail, inTail, rfl⟩
      rcases Language.mem_mul.mp inTail with ⟨between, separates, later, -, rfl⟩
      rw [List.append_assoc, List.append_assoc]
      exact each.avoids value own written _ (parted_separator separates _)

/-- Behind the first entry of a list the others follow, parted from it. -/
theorem split_listed (each : TakesEntries form entry) {closing : TokenKind} {c : Char}
    (parts : c ∈ partingMarks) (closes : ∀ rest, LexedAs .unicode closing [c] rest)
    (bracket : closing ∉ Cursor.breakKinds ∧ closing ≠ .comma) {value : β} {values : List β}
    {text after : List Char} (inside : text ∈ listed form (value :: values))
    (inAfter : after ∈ gap) (rest : List Char) :
    ∃ own ∈ form value, ∃ between ∈ gap * (1 + mark ',' * gap), ∃ later ∈ listed form values,
      ∃ ended ∈ gap,
        text ++ (after ++ ([c] ++ rest)) = own ++ (between ++ (later ++ (ended ++ ([c] ++ rest)))) ∧
        Parted (between ++ (later ++ (ended ++ ([c] ++ rest)))) ∧
        Avoids (.comma :: Cursor.breakKinds) (later ++ (ended ++ ([c] ++ rest))) := by
  have behind : Parted (after ++ ([c] ++ rest)) := parted_gap inAfter (parted_cons parts rest)
  cases values with
  | nil =>
      have whole : after ∈ gap * (1 + mark ',' * gap) :=
        Language.mem_mul.mpr ⟨after, inAfter, [], .inl rfl, List.append_nil after⟩
      exact ⟨text, inside, after, whole, [], rfl, [], .empty, rfl, behind,
        (closes rest).avoids (by simp [bracket])⟩
  | cons next others =>
      rcases Language.mem_mul.mp inside with ⟨own, written, tail, inTail, rfl⟩
      rcases Language.mem_mul.mp inTail with ⟨between, separates, later, inLater, rfl⟩
      refine ⟨own, written, between, separates.2, later, inLater, after, inAfter, ?_,
        parted_separator separates _, (avoids_listed each inLater behind).mono (by decide)⟩
      simp only [List.append_assoc]

/-- Lists are taken if their entries are.  The induction is on the entries, and
each step passes one of them with what parts it from the next. -/
theorem takes_entries {entries : Cursor → Except ParseError (List β × Cursor)}
    {closing : TokenKind} {c : Char} (each : TakesEntries form entry)
    (equation : ∀ cursor, entries cursor =
      match cursor.skipBreaks.rest with
      | [] => .error .unexpectedEnd
      | token :: rest =>
        if token.kind = closing then .ok ([], .behind token rest)
        else do
          let value ← entry cursor
          let others ← entries value.2.skipDivider
          return (value.1 :: others.1, others.2))
    (parts : c ∈ partingMarks) (closes : ∀ rest, LexedAs .unicode closing [c] rest)
    (bracket : closing = .rightBracket ∨ closing = .rightBrace) (values : List β) :
    Takes (listed form values * (gap * mark c)) Anything entries values := by
  have notBreak : closing ∉ Cursor.breakKinds ∧ closing ≠ .comma := by
    rcases bracket with rfl | rfl <;> decide
  have parting : closing ∈ partingKinds := by
    rcases bracket with rfl | rfl <;> decide
  intro before inBefore text inside rest _ cursor faces
  rcases Language.mem_mul.mp inside with ⟨list, inList, tail, inTail, rfl⟩
  rcases Language.mem_mul.mp inTail with ⟨after, inAfter, _, rfl, rfl⟩
  simp only [List.append_assoc] at faces
  clear inside inTail
  -- Behind each entry some gap is left, so the gap before the list varies.
  induction values generalizing before list after cursor with
  | nil =>
      rcases inList with rfl
      rw [List.nil_append, ← List.append_assoc] at faces
      have facing := faces.skipBreaks (inBefore.append inAfter) ((closes rest).avoids notBreak.1)
      rcases facing.token (closes rest) with ⟨token, others, shown, kind, -, behind⟩
      refine ⟨.behind token others, ?_, behind⟩
      rw [equation, shown]
      exact if_pos kind
  | cons value values inductionHypothesis =>
      rcases split_listed each parts closes notBreak inList inAfter rest with
        ⟨own, written, between, divides, later, inLater, ended, inEnded, split, parted, avoids⟩
      rw [split] at faces
      have begins := each.avoids value own written _ parted
      rcases (faces.skipBreaks inBefore (begins.mono (by decide))).first begins with
        ⟨token, others, shown, other⟩
      rcases each.takes value before inBefore own written _ parted cursor faces with
        ⟨next, read, facing⟩
      rcases facing.skipDivider divides avoids with ⟨gapAfter, inGap, onward⟩
      rcases inductionHypothesis gapAfter inGap _ later inLater ended inEnded onward with
        ⟨last, readOthers, facingLast⟩
      refine ⟨last, ?_, facingLast⟩
      have further : token.kind ≠ closing := by
        rintro rfl
        exact other parting
      rw [equation, shown]
      dsimp only
      rw [if_neg further, read]
      change (entries next.skipDivider >>= fun others => .ok (value :: others.1, others.2)) = _
      rw [readOthers]
      rfl

/-- What stands in brackets is taken if the entries are.  Gaps on the inner
sides of the brackets belong to the entries. -/
theorem takes_enclosed {entries : Cursor → Except ParseError (List β × Cursor)}
    {opening : TokenKind} {first last : Char} {values : List β}
    (opens : ∀ rest, LexedAs .unicode opening [first] rest) (solid : opening ∉ Cursor.breakKinds)
    (takes : Takes (listed form values * (gap * mark last)) Anything entries values) :
    Takes (enclosed first last form values) Anything
      (fun cursor => plain (cursor.expect opening) >>= fun opened => entries opened.2) values := by
  intro before inBefore text inside rest _ cursor faces
  rcases mem_mark_mul.mp inside with ⟨others, inOthers, rfl⟩
  rcases Language.mem_mul.mp inOthers with ⟨between, inGap, list, inList, rfl⟩
  have here : cursor.Faces (before ++ ([first] ++ (between ++ list ++ rest))) := faces
  rcases here.expect inBefore (opens _) solid with ⟨token, next, read, -, facing⟩
  rw [List.append_assoc] at facing
  rcases takes between inGap list inList rest trivial next facing with
    ⟨after, readOthers, facingAfter⟩
  refine ⟨after, ?_, facingAfter⟩
  dsimp only
  rw [read]
  exact readOthers

end Entries

/-! ## Labels -/

theorem dropWhile_free {content : List Char} (inner : ∀ c ∈ content, c ≠ '"') :
    content.dropWhile (fun c => decide (c = '"')) = content := by
  cases content with
  | nil => rfl
  | cons c content =>
      exact List.dropWhile_cons_of_neg (by simpa using inner c List.mem_cons_self)

/-- The quotes of a label are stripped, and none of it. -/
theorem unquoted_quotedLabel {label : String} {text : List Char}
    (inside : text ∈ quotedLabel label) :
    unquoted (String.ofList text) = label := by
  rcases inside with ⟨plain, rfl⟩
  have inner : ∀ c ∈ label.toList, c ≠ '"' := fun c member => (plain c member).1
  have quotes (chars : List Char) :
      ('"' :: chars).dropWhile (fun c => decide (c = '"')) =
        chars.dropWhile fun c => decide (c = '"') :=
    List.dropWhile_cons_of_pos rfl
  cases spelled : label.toList with
  | nil =>
      rw [← String.ofList_toList (s := label), spelled]
      rfl
  | cons c others =>
      have opened : (label.toList ++ ['"']).dropWhile (fun c => decide (c = '"')) =
          label.toList ++ ['"'] := by
        rw [spelled] at inner ⊢
        exact List.dropWhile_cons_of_neg (by simpa using inner c List.mem_cons_self)
      have closed : label.toList.reverse.dropWhile (fun c => decide (c = '"')) =
          label.toList.reverse :=
        dropWhile_free fun c member => inner c (List.mem_reverse.mp member)
      rw [← spelled, unquoted, String.toList_ofList, quotes, opened, List.reverse_append,
        List.reverse_singleton, List.singleton_append, quotes, closed, List.reverse_reverse,
        String.ofList_toList]

theorem label?_quotedLabel {token : Token} {label : String} {text : List Char}
    (inside : text ∈ quotedLabel label) (kind : token.kind = .string)
    (written : token.text = String.ofList text) : token.label? = some label := by
  rw [Token.label?, kind, written]
  exact congrArg some (unquoted_quotedLabel inside)

theorem takesEntries_labels : TakesEntries quotedLabel nextLabel where
  takes := by
    intro label before inBefore text inside rest _ cursor faces
    have lexed : LexedAs .unicode .string text rest := lexedAs_quotedLabel inside
    rcases (faces.skipBreaks inBefore (lexed.avoids (by decide))).token lexed with
      ⟨token, others, shown, kind, written, behind⟩
    refine ⟨.behind token others, ?_, behind⟩
    rw [nextLabel, shown]
    dsimp only
    rw [label?_quotedLabel inside kind written]
  avoids := fun label text inside rest _ => (lexedAs_quotedLabel inside).avoids (by decide)

theorem lexedAs_leftBracket (rest : List Char) : LexedAs .unicode .leftBracket ['['] rest :=
  lexedAs_single (by decide) rfl

theorem lexedAs_rightBracket (rest : List Char) : LexedAs .unicode .rightBracket [']'] rest :=
  lexedAs_single (by decide) rfl

theorem lexedAs_leftBrace (rest : List Char) : LexedAs .unicode .leftBrace ['{'] rest :=
  lexedAs_single (by decide) rfl

theorem lexedAs_rightBrace (rest : List Char) : LexedAs .unicode .rightBrace ['}'] rest :=
  lexedAs_single (by decide) rfl

theorem takes_labelList (labels : List String) :
    Takes (labelList labels) Anything (fun cursor => plain (readLabelList cursor)) labels := by
  simp only [plain_readLabelList]
  exact takes_enclosed lexedAs_leftBracket (by decide) (takes_entries takesEntries_labels
    plain_readLabels (by decide) lexedAs_rightBracket (.inl rfl) labels)

/-! ## Numbers -/

variable {α : Type} [NumberText α]

theorem number?_numeral {token : Token} {value : α} {text : List Char}
    (inside : text ∈ numeral value) (written : token.text = String.ofList text) :
    token.number? = .ok value := by
  rw [Token.number?, written, inside.2]

variable [Neg α]

theorem takesEntries_numbers :
    TakesEntries (signedNumeral : α → Language Char)
      (fun cursor => plain (readSignedNumber cursor.skipBreaks)) where
  takes := by
    intro value before inBefore text inside rest parted cursor faces
    rcases inside with unsigned | ⟨magnitude, rfl, negative⟩
    · have lexed : LexedAs .unicode .number text rest := lexedAs_literal unsigned.1 parted
      rcases (faces.skipBreaks inBefore (lexed.avoids (by decide))).token lexed with
        ⟨token, others, shown, kind, written, behind⟩
      refine ⟨.behind token others, ?_, behind⟩
      have noSign : cursor.skipBreaks.kind ≠ .minus := by
        rw [Cursor.kind, shown]
        simp [kind]
      dsimp only
      rw [plain_readSignedNumber, Cursor.skipOne_of_ne shown (by simp [kind]), shown]
      simp only [if_pos kind, number?_numeral unsigned written, if_neg noSign]
      rfl
    · rcases mem_mark_mul.mp negative with ⟨digits, unsigned, rfl⟩
      have sign : LexedAs .unicode .minus ['-'] (digits ++ rest) := lexedAs_single (by decide) rfl
      have here : cursor.Faces (before ++ (['-'] ++ (digits ++ rest))) := faces
      rcases (here.skipBreaks inBefore (sign.avoids (by decide))).token sign with
        ⟨minus, others, shown, minusKind, -, facing⟩
      rcases facing.token (lexedAs_literal unsigned.1 parted) with
        ⟨token, last, shownLast, kind, written, behind⟩
      refine ⟨.behind token last, ?_, behind⟩
      have signed : cursor.skipBreaks.kind = .minus := by
        rw [Cursor.kind, shown]
        exact minusKind
      dsimp only
      rw [plain_readSignedNumber, Cursor.skipOne_of_kind shown minusKind, shownLast]
      simp only [if_pos kind, number?_numeral unsigned written, if_pos signed]
      rfl
  avoids := by
    intro value text inside rest parted
    rcases inside with unsigned | ⟨magnitude, rfl, negative⟩
    · exact (lexedAs_literal unsigned.1 parted).avoids (by decide)
    · rcases mem_mark_mul.mp negative with ⟨digits, -, rfl⟩
      have sign : LexedAs .unicode .minus ['-'] (digits ++ rest) := lexedAs_single (by decide) rfl
      exact sign.avoids (by decide)

theorem takes_numberList (values : List α) :
    Takes (numberList values) Anything (fun cursor => plain (readNumberList cursor)) values := by
  simp only [plain_readNumberList]
  exact takes_enclosed lexedAs_leftBracket (by decide) (takes_entries takesEntries_numbers
    plain_readNumbers (by decide) lexedAs_rightBracket (.inl rfl) values)

/-! ## Tables -/

theorem takesEntries_rows :
    TakesEntries (numberList : List α → Language Char)
      (fun cursor => plain (readNumberList cursor)) where
  takes := fun values before inBefore text inside rest _ =>
    takes_numberList values before inBefore text inside rest trivial
  avoids := by
    intro values text inside rest _
    rcases mem_mark_mul.mp inside with ⟨others, -, rfl⟩
    exact (lexedAs_leftBracket (others ++ rest)).avoids (by decide)

theorem takes_numberTable (rows : List (List α)) :
    Takes (numberTable rows) Anything (fun cursor => plain (readTable cursor)) rows := by
  simp only [plain_readTable]
  exact takes_enclosed lexedAs_leftBrace (by decide) (takes_entries takesEntries_rows
    plain_readRows (by decide) lexedAs_rightBrace (.inr rfl) rows)

end Language
end Optimum
