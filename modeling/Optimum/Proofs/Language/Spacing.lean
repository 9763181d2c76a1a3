import Optimum.Proofs.Language.Literals

namespace Optimum
namespace Language

/-!
# One space between tokens

The texts of the tokens of a source, with one space between any two of them but
none before the end of a line or of the text, are split into the same texts with
the same classes (`tokenizeWith_respaced`).

A token keeps its text because of what may follow it now.  That is a space, a
line end or nothing, and none of these goes on with a token, except with a
comment or a string that is not closed.  Such a one reached up to the line end
or to the end of the text before, and it still stands there (`Separated`).
-/

/-- What stands before the rest of the tokens. -/
def gapBefore : List Token → List Char
  | next :: _ => if next.kind = .newline ∨ next.kind = .endOfFile then [] else [' ']
  | [] => []

/-- The texts of tokens with the gaps between them. -/
def respacedFrom : List Token → List Char
  | [] => []
  | token :: rest => token.text.toList ++ (gapBefore rest ++ respacedFrom rest)

/-- The texts of tokens with one space between any two, but with none before
the end of a line or of the text. -/
def respaced (tokens : List Token) : String :=
  String.ofList (respacedFrom tokens)

/-- A token without its place. -/
def Token.reading (token : Token) : TokenKind × String :=
  (token.kind, token.text)

/-- What follows a token in spaced text, beside what followed it before: a space
or a line end, nothing only where nothing followed, and a line end where a line
end did.  Tokens that are closed by these stay as they are. -/
structure Separated (before after : List Char) : Prop where
  apart : ∀ c ∈ after.head?, c = ' ' ∨ c = '\n'
  ends : before = [] → after = []
  breaks : before.head? = some '\n' → ∀ c ∈ after.head?, c = '\n'

namespace Separated

variable {before after : List Char}

theorem stops (separated : Separated before after) {test : Char → Bool}
    (space : test ' ' = false) (newline : test '\n' = false) :
    ∀ c ∈ after.head?, test c = false := by
  intro c first
  rcases separated.apart c first with rfl | rfl
  · exact space
  · exact newline

/-- Behind what goes on up to a line end only a line end follows. -/
theorem stays_of_breaks (separated : Separated before after)
    (breaks : ∀ c ∈ before.head?, c = '\n') : ∀ c ∈ after.head?, c = '\n' := by
  cases before with
  | nil =>
      rw [separated.ends rfl]
      exact nofun
  | cons c rest => exact separated.breaks (congrArg some (breaks c rfl))

theorem not_followedBy (separated : Separated before after) {test : Char → Bool}
    (space : test ' ' = false) (newline : test '\n' = false) :
    followedBy test after = false := by
  cases after with
  | nil => rfl
  | cons c rest => exact separated.stops space newline c rfl

/-- What does not follow in the old text does not follow in the new one. -/
theorem not_followedBy_take {rest : List Char} {count : Nat}
    (separated : Separated (rest.drop count) after) {test : Char → Bool}
    (space : test ' ' = false) (newline : test '\n' = false)
    (other : ¬ followedBy test rest = true) :
    ¬ followedBy test (rest.take count ++ after) = true := by
  cases count with
  | zero => simp [separated.not_followedBy space newline]
  | succ count =>
      cases rest with
      | nil => simp [separated.not_followedBy space newline]
      | cons c rest => exact other

end Separated

/-! ## How far tokens reach in spaced text -/

theorem head_drop_reach (test : Char → Bool) (chars : List Char) :
    ∀ c ∈ (chars.drop (reach test chars)).head?, test c = false := by
  induction chars with
  | nil => exact nofun
  | cons d rest inductionHypothesis =>
      cases passes : test d with
      | true => simpa [reach, passes] using inductionHypothesis
      | false =>
          intro c first
          simp [reach, passes] at first
          exact first ▸ passes

theorem reach_take (test : Char → Bool) (chars : List Char) {after : List Char}
    (stops : ∀ c ∈ after.head?, test c = false) :
    reach test (chars.take (reach test chars) ++ after) =
      (chars.take (reach test chars)).length := by
  refine reach_run (fun c member => ?_) stops
  rw [takeWhile_of_reach] at member
  exact List.all_eq_true.mp List.all_takeWhile c member

theorem blockReach_pos (c : Char) (rest : List Char) : 0 < blockReach (c :: rest) := by
  rw [blockReach.eq_def]
  split
  · exact Nat.two_pos
  · exact Nat.succ_pos _
  · contradiction

/-- A block comment that is not closed reaches to the end.  So nothing may be
put behind it, not even a space. -/
theorem blockReach_take (chars : List Char) {after : List Char}
    (ends : chars.drop (blockReach chars) = [] → after = []) :
    blockReach (chars.take (blockReach chars) ++ after) =
      (chars.take (blockReach chars)).length := by
  induction chars using blockReach.induct with
  | case1 rest => rfl
  | case2 c rest unclosed inductionHypothesis =>
      rw [blockReach.eq_2 c rest unclosed] at ends ⊢
      rw [List.take_succ_cons, List.cons_append, List.length_cons, ← inductionHypothesis ends]
      refine blockReach.eq_2 c _ fun others star closes => ?_
      cases rest with
      | nil =>
          rw [ends rfl] at closes
          cases closes
      | cons d rest =>
          rcases Nat.exists_eq_add_one_of_ne_zero (blockReach_pos d rest).ne' with ⟨more, reached⟩
          rw [reached, List.take_succ_cons] at closes
          cases closes
          exact unclosed rest star rfl
  | case3 =>
      rw [ends rfl]
      rfl

/-- A string that is not closed reaches to the end of its line. -/
theorem stringReach_take (chars : List Char) {after : List Char}
    (separated : Separated (chars.drop (stringReach chars)) after) :
    stringReach (chars.take (stringReach chars) ++ after) =
      (chars.take (stringReach chars)).length := by
  induction chars using stringReach.induct with
  | case1 rest => rfl
  | case2 rest =>
      cases after with
      | nil => rfl
      | cons c after =>
          rcases separated.breaks rfl c rfl with rfl
          rfl
  | case3 c rest unclosed within inductionHypothesis =>
      rw [stringReach.eq_3 c rest unclosed within] at separated ⊢
      rw [List.take_succ_cons, List.cons_append, List.length_cons, ← inductionHypothesis separated]
      exact stringReach.eq_3 c _ unclosed within
  | case4 =>
      rw [separated.ends rfl]
      rfl

/-! ## Tokens in spaced text -/

/-- The characters that are tokens whatever follows them. -/
def marks : List Char :=
  ['\n', '+', '-', '*', '≤', '≥', ':', ';', ',', '{', '}', '[', ']', '(', ')']

/-- The characters whose token depends on the next character, or that open a
string. -/
def openings : List Char :=
  ['/', '"', '<', '>', '=']

theorem munch_mark {c : Char} (mark : c ∈ marks) (alphabet : Alphabet) :
    ∃ kind, ∀ rest, munch alphabet c rest = (kind, 0) := by
  simp only [marks, List.mem_cons, List.not_mem_nil, or_false] at mark
  rcases mark with rfl | rfl | rfl | rfl | rfl | rfl | rfl | rfl | rfl | rfl | rfl | rfl | rfl |
    rfl | rfl <;> exact ⟨_, fun _ => rfl⟩

theorem munch_of_not_mark {alphabet : Alphabet} {c : Char} (unmarked : c ∉ marks)
    (plain : c ∉ openings) (rest : List Char) :
    munch alphabet c rest =
      if c.isDigit then (.number, numberReach rest)
      else if c = '.' ∧ followedBy Char.isDigit rest then (.number, pointedReach rest)
      else if alphabet.startsName c then
        (nameKind (c :: rest.take (reach alphabet.continuesName rest)),
          reach alphabet.continuesName rest)
      else (.error, 0) := by
  unfold munch
  split <;> first
    | exact absurd (by decide) unmarked
    | exact absurd (by decide) plain
    | rfl

variable {alphabet : Alphabet} {c : Char} {rest after : List Char} {kind : TokenKind} {count : Nat}

theorem exists_of_followedBy {d : Char} (next : followedBy (· = d) rest = true) :
    ∃ others, rest = d :: others := by
  cases rest with
  | nil => cases next
  | cons first others => exact ⟨others, congrArg (· :: others) (of_decide_eq_true next)⟩

/-- A slash is a token by itself, or it opens a comment of either form. -/
theorem munch_slash_take (found : munch alphabet '/' rest = (kind, count))
    (separated : Separated (rest.drop count) after) :
    munch alphabet '/' (rest.take count ++ after) = (kind, (rest.take count).length) := by
  have slash (chars : List Char) : munch alphabet '/' chars =
      if followedBy (· = '/') chars then (.comment, reach (· ≠ '\n') chars)
      else if followedBy (· = '*') chars then (.comment, 1 + blockReach (chars.drop 1))
      else (.slash, 0) := rfl
  rw [slash] at found
  split at found
  · next line =>
      rcases exists_of_followedBy line with ⟨others, rfl⟩
      cases found
      have stops := separated.stays_of_breaks fun c first => by
        simpa using head_drop_reach (fun c => decide (c ≠ '\n')) ('/' :: others) c first
      have reached := reach_take (fun c => decide (c ≠ '\n')) ('/' :: others)
        fun c first => by simpa using stops c first
      rw [slash, if_pos, reached]
      simp [reach, followedBy]
  · next notLine =>
      split at found
      · next block =>
          rcases exists_of_followedBy block with ⟨others, rfl⟩
          cases found
          rw [Nat.add_comm] at separated ⊢
          have reached := blockReach_take others separated.ends
          exact congrArg (fun more => (TokenKind.comment, more))
            ((congrArg (1 + ·) reached).trans (Nat.add_comm _ _))
      · cases found
        rw [slash, List.take_zero, List.nil_append,
          separated.not_followedBy (by decide) (by decide),
          separated.not_followedBy (by decide) (by decide)]
        rfl

/-- A relation is taken with the sign of equality behind it, if there is one. -/
theorem munch_relation_take {strict loose : TokenKind}
    (relation : ∀ chars, munch alphabet c chars =
      if followedBy (· = '=') chars then (loose, 1) else (strict, 0))
    (found : munch alphabet c rest = (kind, count))
    (separated : Separated (rest.drop count) after) :
    munch alphabet c (rest.take count ++ after) = (kind, (rest.take count).length) := by
  rw [relation] at found
  split at found
  · next equal =>
      rcases exists_of_followedBy equal with ⟨others, rfl⟩
      cases found
      rw [relation]
      rfl
  · cases found
    rw [relation, List.take_zero, List.nil_append,
      separated.not_followedBy (by decide) (by decide)]
    rfl

theorem munch_name_take (space : alphabet.isAlphanumeric ' ' = false)
    (newline : alphabet.isAlphanumeric '\n' = false)
    (separated : Separated (rest.drop (reach alphabet.continuesName rest)) after) :
    reach alphabet.continuesName (rest.take (reach alphabet.continuesName rest) ++ after) =
      (rest.take (reach alphabet.continuesName rest)).length := by
  refine reach_take _ rest (separated.stops ?_ ?_)
  · rw [Alphabet.continuesName, space]
    rfl
  · rw [Alphabet.continuesName, newline]
    rfl

theorem munch_plain_take (space : alphabet.isAlphanumeric ' ' = false)
    (newline : alphabet.isAlphanumeric '\n' = false) (unmarked : c ∉ marks) (plain : c ∉ openings)
    (found : munch alphabet c rest = (kind, count)) (unnumbered : kind ≠ .number)
    (separated : Separated (rest.drop count) after) :
    munch alphabet c (rest.take count ++ after) = (kind, (rest.take count).length) := by
  rw [munch_of_not_mark unmarked plain] at found ⊢
  split at found
  · cases found
    exact absurd rfl unnumbered
  · next noDigit =>
      rw [if_neg noDigit]
      split at found
      · cases found
        exact absurd rfl unnumbered
      · next pointless =>
          have stillPointless : ¬ (c = '.' ∧
              followedBy Char.isDigit (rest.take count ++ after) = true) := fun point =>
            separated.not_followedBy_take (by decide) (by decide)
              (fun digit => pointless ⟨point.1, digit⟩) point.2
          rw [if_neg stillPointless]
          split at found
          · next begins =>
              cases found
              rw [if_pos begins, munch_name_take space newline separated, List.take_left]
          · next other =>
              cases found
              rw [if_neg other]
              rfl

/-- A token is taken again from its text where the text is spaced.  The cases
are those of the lexer, and most tokens do not look at what follows. -/
theorem munch_take (space : alphabet.isAlphanumeric ' ' = false)
    (newline : alphabet.isAlphanumeric '\n' = false)
    (found : munch alphabet c rest = (kind, count))
    (separated : Separated (rest.drop count) after) :
    munch alphabet c (rest.take count ++ after) = (kind, (rest.take count).length) := by
  by_cases number : kind = .number
  -- A number begins in two ways; that it is the longest literal settles both.
  · subst number
    have longest : IsLongest literal (c :: rest) ((munch alphabet c rest).2 + 1) :=
      munch_longest (congrArg Prod.fst found)
    rw [found] at longest
    exact munch_literal longest.member (separated.stops (by decide) (by decide))
  · by_cases mark : c ∈ marks
    · rcases munch_mark mark alphabet with ⟨own, alone⟩
      rw [alone] at found ⊢
      cases found
      rfl
    · by_cases opening : c ∈ openings
      · simp only [openings, List.mem_cons, List.not_mem_nil, or_false] at opening
        rcases opening with rfl | rfl | rfl | rfl | rfl
        · exact munch_slash_take found separated
        · cases found
          exact congrArg _ (stringReach_take rest separated)
        · exact munch_relation_take (fun _ => rfl) found separated
        · exact munch_relation_take (fun _ => rfl) found separated
        · have equal (chars : List Char) : munch alphabet '=' chars =
              if followedBy (· = '=') chars then (.eq, 1) else (.eq, 0) := by
            simp only [munch]
            split <;> rfl
          exact munch_relation_take equal found separated
      · exact munch_plain_take space newline mark opening found number separated

/-! ## Spaced texts -/

theorem munch_newline_iff : (munch alphabet c rest).1 = .newline ↔ c = '\n' := by
  constructor
  · unfold munch
    split <;> (try split_ifs) <;> first
      | exact fun _ => rfl
      | exact fun named => absurd named (nameKind_ne _ (by decide))
      | exact nofun
  · rintro rfl
    rfl

/-- Before the tokens of some characters stands what keeps them apart from the
token before. -/
theorem separated_respacedFrom (alphabet : Alphabet) (position : Nat) (chars : List Char) :
    Separated chars (gapBefore (tokensFrom alphabet position chars) ++
      respacedFrom (tokensFrom alphabet position chars)) := by
  induction position, chars using tokensFrom.induct alphabet with
  | case1 position =>
      rw [tokensFrom]
      exact ⟨fun c first => absurd first (Option.not_mem_none c), fun _ => rfl,
        fun _ c first => absurd first (Option.not_mem_none c)⟩
  | case2 position c rest separates inductionHypothesis =>
      rw [tokensFrom, if_pos separates]
      refine ⟨inductionHypothesis.apart, fun none => absurd none (List.cons_ne_nil c rest),
        fun breaks => ?_⟩
      cases breaks
      exact absurd separates (by decide)
  | case3 position c rest solid found text stop inductionHypothesis =>
      have nonempty : c :: rest ≠ [] := List.cons_ne_nil c rest
      rw [tokensFrom, if_neg solid]
      have begins (place : Span) (others : List Token) :
          respacedFrom (⟨found.1, place, String.ofList text⟩ :: others) =
            c :: (rest.take found.2 ++ (gapBefore others ++ respacedFrom others)) := by
        rw [respacedFrom, String.toList_ofList]
        rfl
      by_cases line : found.1 = .newline
      · rcases munch_newline_iff.mp line with rfl
        rw [gapBefore, if_pos (.inl line), begins, List.nil_append]
        refine ⟨fun d first => ?_, (absurd · nonempty), fun _ d first => ?_⟩ <;> cases first
        · exact .inr rfl
        · rfl
      · have inside : ¬ (found.1 = .newline ∨ found.1 = .endOfFile) :=
          not_or.mpr ⟨line, munch_ne_endOfFile alphabet c rest⟩
        rw [gapBefore, if_neg inside]
        refine ⟨fun d first => ?_, (absurd · nonempty), fun breaks => ?_⟩
        · cases first
          exact .inl rfl
        · cases breaks
          exact absurd (munch_newline_iff.mpr rfl) line

theorem tokensFrom_gapBefore (alphabet : Alphabet) (tokens : List Token) (position : Nat)
    (rest : List Char) : ∃ stop,
      tokensFrom alphabet position (gapBefore tokens ++ rest) = tokensFrom alphabet stop rest := by
  unfold gapBefore
  split
  · split
    · exact ⟨position, rfl⟩
    · exact tokensFrom_space alphabet position rest
  · exact ⟨position, rfl⟩

/-- The tokens of some characters are read again, from any place, from their
spaced texts. -/
theorem tokensFrom_respacedFrom {alphabet : Alphabet} (space : alphabet.isAlphanumeric ' ' = false)
    (newline : alphabet.isAlphanumeric '\n' = false) (position : Nat) (chars : List Char) :
    ∀ place, (tokensFrom alphabet place
      (respacedFrom (tokensFrom alphabet position chars))).map Token.reading =
        (tokensFrom alphabet position chars).map Token.reading := by
  induction position, chars using tokensFrom.induct alphabet with
  | case1 position =>
      intro place
      have nothing : respacedFrom (tokensFrom alphabet position []) = [] := by
        rw [tokensFrom]
        rfl
      rw [nothing, tokensFrom, tokensFrom]
      rfl
  | case2 position c rest separates inductionHypothesis =>
      intro place
      rw [tokensFrom, if_pos separates]
      exact inductionHypothesis place
  | case3 position c rest solid found text stop inductionHypothesis =>
      intro place
      rw [tokensFrom, if_neg solid, respacedFrom, String.toList_ofList]
      let others := tokensFrom alphabet stop (rest.drop found.2)
      have separated := separated_respacedFrom alphabet stop (rest.drop found.2)
      have lexed : LexedAs alphabet found.1 text (gapBefore others ++ respacedFrom others) :=
        ⟨c, rest.take found.2, rfl, Bool.eq_false_iff.mpr solid,
          munch_take space newline rfl separated⟩
      -- Behind the token the gap is skipped, and the others begin at some place.
      rcases tokensFrom_of_lexedAs lexed place with ⟨span, behind, first⟩
      rcases tokensFrom_gapBefore alphabet others behind (respacedFrom others) with
        ⟨onward, skipped⟩
      have again := inductionHypothesis onward
      rw [← skipped] at again
      exact (congrArg (List.map Token.reading) first).trans (congrArg (_ :: ·) again)

/-- Spacing a text anew changes neither the classes nor the texts of its tokens.
Blanks carry no meaning besides the one of keeping tokens apart, so any text may
be brought into this form.  The alphabet must not contain the two characters
that are put in. -/
theorem tokenizeWith_respaced (alphabet : Alphabet) (space : alphabet.isAlphanumeric ' ' = false)
    (newline : alphabet.isAlphanumeric '\n' = false) (source : String) :
    (tokenizeWith alphabet (respaced (tokenizeWith alphabet source))).map Token.reading =
      (tokenizeWith alphabet source).map Token.reading := by
  rw [respaced, tokenizeWith, String.toList_ofList]
  exact tokensFrom_respacedFrom space newline 0 source.toList 0

/-- Literals that end early, a strict inequality and an open string. -/
theorem tokenizeWith_respaced_openString :
    Alphabet.unicode.isAlphanumeric ' ' = false ∧ Alphabet.unicode.isAlphanumeric '\n' = false ∧
      (tokenizeWith .unicode (respaced (tokenizeWith .unicode "1.e5<x  // c\n\"open"))).map
          Token.reading =
        (tokenizeWith .unicode "1.e5<x  // c\n\"open").map Token.reading :=
  ⟨by decide +kernel, by decide +kernel,
    tokenizeWith_respaced .unicode (by decide +kernel) (by decide +kernel) _⟩

example : respaced (tokenize "1.e5<x  // c\n\"open") = "1 . e5 < x // c\n \"open" := by
  decide +kernel

end Language
end Optimum
