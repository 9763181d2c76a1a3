import Optimum.Proofs.Language.CommentsInParts
import Optimum.Proofs.Language.DataTexts
import Optimum.Proofs.Language.NumberTokens
import Optimum.Proofs.Language.ShownTokens

namespace Optimum
namespace Language

/-!
# The tokens of models of data

A cursor faces characters if what is left to read are their tokens.  The marks,
names, labels and literals of a model are one token each, and a cursor passes
over the gaps before them, whatever the gaps are made of.
-/

/-! ## Single tokens -/

section LexedAs

variable {rest : List Char}

theorem continuesName_of_mem {c : Char} (parts : c ∈ partingMarks) :
    Alphabet.unicode.continuesName c = false := by
  simp only [partingMarks, List.mem_cons, List.not_mem_nil, or_false] at parts
  rcases parts with rfl | rfl | rfl | rfl | rfl | rfl | rfl | rfl | rfl | rfl | rfl <;>
    decide +kernel

theorem inLiteral_of_mem {c : Char} (parts : c ∈ partingMarks) : inLiteral c = false := by
  simp only [partingMarks, List.mem_cons, List.not_mem_nil, or_false] at parts
  rcases parts with rfl | rfl | rfl | rfl | rfl | rfl | rfl | rfl | rfl | rfl | rfl <;> decide

theorem lexedAs_single {kind : TokenKind} {c : Char} (ordinary : isBlank c = false)
    (munched : munch .unicode c rest = (kind, 0)) : LexedAs .unicode kind [c] rest :=
  ⟨c, [], rfl, ordinary, munched⟩

theorem lexedAs_word {first : Char} {others : List Char}
    (begins : Alphabet.unicode.startsName first = true)
    (continues : ∀ c ∈ others, Alphabet.unicode.continuesName c = true) (parted : Parted rest) :
    LexedAs .unicode (nameKind (first :: others)) (first :: others) rest := by
  have stops : ∀ c ∈ rest.head?, Alphabet.unicode.continuesName c = false :=
    parted.stops fun _ => continuesName_of_mem
  rcases Decimal.takeWhile_run continues stops with ⟨taken, -⟩
  refine ⟨first, others, rfl, ?_, ?_⟩
  · exact isBlank_eq_false begins (by decide +kernel) (by decide +kernel) (by decide +kernel)
  · rw [munch_of_startsName begins, taken, reach_run continues stops]

theorem lexedAs_spelled {kind : TokenKind} {name : String}
    (begins : name.toList.head?.any Alphabet.unicode.startsName = true)
    (continues : name.toList.tail.all Alphabet.unicode.continuesName = true)
    (known : nameKind name.toList = kind) (rest : List Char) (parted : Parted rest) :
    LexedAs .unicode kind name.toList rest := by
  cases spelled : name.toList with
  | nil => simp [spelled] at begins
  | cons first others =>
      rw [spelled] at begins continues known
      exact known ▸ lexedAs_word begins (List.all_eq_true.mp continues) parted

theorem lexedAs_isName {name : String} (isName : IsName name) (parted : Parted rest) :
    LexedAs .unicode .identifier name.toList rest := by
  rcases isName_iff.mp isName with ⟨begins, continues, free⟩
  exact lexedAs_spelled begins continues free rest parted

theorem blockReach_content {content : List Char} (inner : ¬ ['*', '/'] <:+: content) :
    blockReach (content ++ '*' :: '/' :: rest) = content.length + 2 := by
  induction content with
  | nil => rfl
  | cons c content inductionHypothesis =>
      have later : ¬ ['*', '/'] <:+: content :=
        fun within => inner (within.trans (List.suffix_cons c content).isInfix)
      rw [List.cons_append, List.length_cons, Nat.add_right_comm, ← inductionHypothesis later]
      refine blockReach.eq_2 c _ fun others star closes => inner ?_
      -- The mark would close here only if its second half stood next.
      cases content with
      | nil => cases closes
      | cons d content =>
          cases closes
          exact star ▸ ⟨[], content, rfl⟩

theorem lexedAs_blockComment {content : List Char} (inner : ¬ ['*', '/'] <:+: content) :
    LexedAs .unicode .comment ('/' :: '*' :: (content ++ ['*', '/'])) rest := by
  refine ⟨'/', '*' :: (content ++ ['*', '/']), rfl, by decide, ?_⟩
  have shown : content ++ ['*', '/'] ++ rest = content ++ '*' :: '/' :: rest := by simp
  have reached : blockReach (content ++ ['*', '/'] ++ rest) = content.length + 2 :=
    shown ▸ blockReach_content inner
  have munched : munch .unicode '/' ('*' :: (content ++ ['*', '/'] ++ rest)) =
      (.comment, 1 + blockReach (content ++ ['*', '/'] ++ rest)) := rfl
  rw [List.cons_append, munched, reached, List.length_cons, List.length_append]
  simp only [List.length_cons, List.length_nil, Nat.add_comm]

theorem stringReach_content {content : List Char} (inner : ∀ c ∈ content, c ≠ '"' ∧ c ≠ '\n') :
    stringReach (content ++ '"' :: rest) = content.length + 1 := by
  induction content with
  | nil => rfl
  | cons c content inductionHypothesis =>
      rcases List.forall_mem_cons.mp inner with ⟨⟨noQuote, noBreak⟩, later⟩
      rw [List.cons_append, List.length_cons, ← inductionHypothesis later]
      exact stringReach.eq_3 c _ noQuote noBreak

theorem lexedAs_quotedLabel {label : String} {text : List Char}
    (inside : text ∈ quotedLabel label) :
    LexedAs .unicode .string text rest := by
  rcases inside with ⟨inner, rfl⟩
  refine ⟨'"', label.toList ++ ['"'], rfl, by decide, ?_⟩
  have munched : munch .unicode '"' (label.toList ++ ['"'] ++ rest) =
      (.string, stringReach (label.toList ++ ['"'] ++ rest)) := rfl
  rw [munched, List.append_assoc, List.singleton_append, stringReach_content inner,
    List.length_append]
  rfl

theorem lexedAs_literal {text : List Char} (written : text ∈ literal) (parted : Parted rest) :
    LexedAs .unicode .number text rest := by
  cases text with
  | nil => exact absurd ⟨[], written, List.prefix_rfl⟩ not_beginsWith_nil
  | cons first others =>
      have stops := parted.stops fun _ => inLiteral_of_mem
      refine ⟨first, others, rfl, ?_, munch_literal written stops⟩
      exact isBlank_eq_false (madeOf_literal _ written first List.mem_cons_self) (by decide)
        (by decide) (by decide)

/-- Characters that begin with a token of none of the classes. -/
def Avoids (kinds : List TokenKind) (chars : List Char) : Prop :=
  ∃ kind text rest, chars = text ++ rest ∧ LexedAs .unicode kind text rest ∧ kind ∉ kinds

theorem LexedAs.avoids {kind : TokenKind} {text : List Char} {kinds : List TokenKind}
    (lexed : LexedAs .unicode kind text rest) (other : kind ∉ kinds) :
    Avoids kinds (text ++ rest) :=
  ⟨kind, text, rest, rfl, lexed, other⟩

theorem Avoids.mono {kinds fewer : List TokenKind} {chars : List Char} (avoids : Avoids kinds chars)
    (subset : fewer ⊆ kinds) : Avoids fewer chars := by
  rcases avoids with ⟨kind, text, rest, shown, lexed, other⟩
  exact ⟨kind, text, rest, shown, lexed, fun member => other (subset member)⟩

end LexedAs

/-! ## Cursors before characters -/

namespace Cursor

/-- What is left at the cursor are the tokens of the characters.  Through this,
what is known of a text becomes known of its tokens, piece by piece. -/
def Faces (cursor : Cursor) (chars : List Char) : Prop :=
  ∃ position, cursor.rest = tokensFrom .unicode position chars

variable {cursor : Cursor} {chars text rest : List Char}

theorem Faces.token {kind : TokenKind} (faces : cursor.Faces (text ++ rest))
    (lexed : LexedAs .unicode kind text rest) :
    ∃ token others, cursor.rest = token :: others ∧ token.kind = kind ∧
      token.text = String.ofList text ∧ (behind token others).Faces rest := by
  rcases faces with ⟨position, shown⟩
  rcases tokensFrom_of_lexedAs lexed position with ⟨place, stop, first⟩
  exact ⟨_, _, shown.trans first, rfl, rfl, stop, rfl⟩

theorem Faces.first {kinds : List TokenKind} (faces : cursor.Faces chars)
    (avoids : Avoids kinds chars) :
    ∃ token others, cursor.rest = token :: others ∧ token.kind ∉ kinds := by
  rcases avoids with ⟨kind, text, rest, rfl, lexed, other⟩
  rcases faces.token lexed with ⟨token, others, shown, same, -⟩
  exact ⟨token, others, shown, same ▸ other⟩

theorem Faces.behind_blank {c : Char} (faces : cursor.Faces (c :: rest))
    (blank : isBlank c = true) : cursor.Faces rest := by
  rcases faces with ⟨position, shown⟩
  rw [tokensFrom, if_pos blank] at shown
  exact ⟨_, shown⟩

theorem Faces.behind_blanks (faces : cursor.Faces (text ++ rest)) (inside : text ∈ blanks) :
    cursor.Faces rest := by
  induction text with
  | nil => exact faces
  | cons c text inductionHypothesis =>
      rcases List.forall_mem_cons.mp inside with ⟨blank, others⟩
      exact inductionHypothesis (faces.behind_blank blank) others

/-- The classes of the tokens that are skipped as breaks. -/
def breakKinds : List TokenKind :=
  [.newline, .comment, .semicolon]

theorem skipBreaks_of_mem {token : Token} {others : List Token}
    (shown : cursor.rest = token :: others) (breaks : token.kind ∈ breakKinds) :
    cursor.skipBreaks = (behind token others).skipBreaks := by
  simp only [breakKinds, List.mem_cons, List.not_mem_nil, or_false] at breaks
  rw [skipBreaks, shown, skipFrom, if_pos]
  · rfl
  · rcases breaks with newline | comment | semicolon
    · simp [newline]
    · simp [comment]
    · simp [semicolon]

theorem skipBreaks_of_not_mem {token : Token} {others : List Token}
    (shown : cursor.rest = token :: others) (solid : token.kind ∉ breakKinds) :
    cursor.skipBreaks = cursor := by
  rcases cursor with ⟨stop, rest⟩
  subst shown
  simp only [breakKinds, List.mem_cons, List.not_mem_nil, or_false, not_or] at solid
  simp [skipBreaks, skipFrom, solid]

/-- A gap is passed: what is skipped before it is skipped behind it.  The
induction is on the gap, which may hold comments and line ends. -/
theorem Faces.behind_gap (faces : cursor.Faces (text ++ rest)) (inside : text ∈ gap) :
    ∃ passed : Cursor, cursor.skipBreaks = passed.skipBreaks ∧ passed.Faces rest := by
  induction inside generalizing cursor with
  | empty => exact ⟨cursor, rfl, faces⟩
  | blank separates more inductionHypothesis =>
      exact inductionHypothesis (faces.behind_blank separates)
  | @newline left more inductionHypothesis =>
      have lexed : LexedAs .unicode .newline ['\n'] (left ++ rest) :=
        lexedAs_single (by decide) rfl
      have here : cursor.Faces (['\n'] ++ (left ++ rest)) := faces
      rcases here.token lexed with ⟨token, others, shown, kind, -, behind⟩
      rcases inductionHypothesis behind with ⟨passed, same, facing⟩
      exact ⟨passed, (skipBreaks_of_mem shown (by simp [kind, breakKinds])).trans same, facing⟩
  | comment inner more inductionHypothesis =>
      rw [List.append_assoc] at faces
      rcases faces.token (lexedAs_blockComment inner) with ⟨token, others, shown, kind, -, behind⟩
      rcases inductionHypothesis behind with ⟨passed, same, facing⟩
      exact ⟨passed, (skipBreaks_of_mem shown (by simp [kind, breakKinds])).trans same, facing⟩

/-- Behind a gap stands what is no break. -/
theorem Faces.skipBreaks {before : List Char} (faces : cursor.Faces (before ++ chars))
    (inside : before ∈ gap) (avoids : Avoids breakKinds chars) : cursor.skipBreaks.Faces chars := by
  rcases faces.behind_gap inside with ⟨passed, same, facing⟩
  rcases facing.first avoids with ⟨token, others, shown, solid⟩
  rw [same, skipBreaks_of_not_mem shown solid]
  exact facing

theorem Faces.expect {before : List Char} {kind : TokenKind}
    (faces : cursor.Faces (before ++ (text ++ rest))) (inside : before ∈ gap)
    (lexed : LexedAs .unicode kind text rest) (solid : kind ∉ breakKinds) :
    ∃ token next, plain (cursor.expect kind) = .ok (token, next) ∧
      token.text = String.ofList text ∧ next.Faces rest := by
  rcases (faces.skipBreaks inside (lexed.avoids solid)).token lexed with
    ⟨token, others, shown, found, written, behind⟩
  refine ⟨token, .behind token others, ?_, written, behind⟩
  rw [plain_expect, shown]
  exact if_pos found

theorem skipOne_of_kind {kind : TokenKind} {token : Token} {others : List Token}
    (shown : cursor.rest = token :: others) (same : token.kind = kind) :
    cursor.skipOne kind = behind token others := by
  rcases cursor with ⟨stop, rest⟩
  subst shown
  exact if_pos same

theorem skipOne_of_ne {kind : TokenKind} {token : Token} {others : List Token}
    (shown : cursor.rest = token :: others) (other : token.kind ≠ kind) :
    cursor.skipOne kind = cursor := by
  rcases cursor with ⟨stop, rest⟩
  subst shown
  exact if_neg other

/-- A gap before other tokens does not begin with one of theirs. -/
theorem Faces.first_of_gap {kinds : List TokenKind} (faces : cursor.Faces (text ++ chars))
    (inside : text ∈ gap) (avoids : Avoids kinds chars) (newline : .newline ∉ kinds)
    (comment : .comment ∉ kinds) :
    ∃ token others, cursor.rest = token :: others ∧ token.kind ∉ kinds := by
  induction inside with
  | empty => exact faces.first avoids
  | blank separates _ inductionHypothesis =>
      exact inductionHypothesis (faces.behind_blank separates)
  | @newline left _ _ =>
      have lexed : LexedAs .unicode .newline ['\n'] (left ++ chars) :=
        lexedAs_single (by decide) rfl
      exact faces.first (lexed.avoids newline)
  | comment inner _ _ =>
      rw [List.append_assoc] at faces
      exact faces.first ((lexedAs_blockComment inner).avoids comment)

theorem Faces.skipDivider (faces : cursor.Faces (text ++ chars))
    (inside : text ∈ gap * (1 + mark ',' * gap)) (avoids : Avoids (.comma :: breakKinds) chars) :
    ∃ before ∈ gap, cursor.skipDivider.Faces (before ++ chars) := by
  rcases Language.mem_mul.mp inside with ⟨before, inGap, after, either, rfl⟩
  rw [List.append_assoc] at faces
  have solid : Avoids breakKinds chars := avoids.mono (List.subset_cons_self _ _)
  rcases either with rfl | withComma
  · have facing := faces.skipBreaks inGap solid
    rcases facing.first avoids with ⟨token, others, shown, other⟩
    refine ⟨[], .empty, ?_⟩
    rw [Cursor.skipDivider, skipOne_of_ne shown fun same => other (same ▸ List.mem_cons_self)]
    exact facing
  · rcases mem_mark_mul.mp withComma with ⟨more, inMore, rfl⟩
    have lexed : LexedAs .unicode .comma [','] (more ++ chars) := lexedAs_single (by decide) rfl
    have here : cursor.Faces (before ++ ([','] ++ (more ++ chars))) := faces
    rcases (here.skipBreaks inGap (lexed.avoids (by decide))).token lexed with
      ⟨token, others, shown, kind, -, behind⟩
    refine ⟨more, inMore, ?_⟩
    rw [Cursor.skipDivider, skipOne_of_kind shown kind]
    exact behind

/-- At the end of the text nothing stands behind a gap. -/
theorem Faces.skipBreaks_kind (faces : cursor.Faces text) (inside : text ∈ gap) :
    cursor.skipBreaks.kind = .endOfFile := by
  rw [← List.append_nil text] at faces
  rcases faces.behind_gap inside with ⟨passed, same, position, shown⟩
  rw [tokensFrom] at shown
  rw [same, skipBreaks_of_not_mem shown (by simp [breakKinds]), kind, shown]

end Cursor

end Language
end Optimum
