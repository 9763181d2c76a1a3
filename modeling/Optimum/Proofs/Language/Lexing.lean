import Mathlib.Data.String.Basic
import Optimum.Language.Lexer

namespace Optimum
namespace Language

/-!
# Tokens that spell a text

`Spelled` says how blanks and tokens follow each other in a text: each token
carries its own characters and the bytes they take.  What it means that tokens
lose nothing of a text is read off this form: where a token stands in the text
(`Spelled.place`), that tokens do not overlap, and what the bytes between them
are.  The module on scanning shows that the lexer's answer is of this form.

Byte offsets count the UTF-8 form, so a slice is compared with the text through
the characters on either side of it.
-/

theorem byteCount_eq (chars : List Char) : byteCount chars = String.utf8Len chars := by
  induction chars with
  | nil => rfl
  | cons c rest inductionHypothesis =>
      rw [byteCount, inductionHypothesis, String.utf8Len_cons, Nat.add_comm]

theorem byteCount_append (left right : List Char) :
    byteCount (left ++ right) = byteCount left + byteCount right := by
  simp only [byteCount_eq, String.utf8Len_append]

theorem byteCount_pos {chars : List Char} (nonempty : chars ≠ []) : 0 < byteCount chars := by
  rcases List.exists_cons_of_ne_nil nonempty with ⟨c, rest, rfl⟩
  exact Nat.lt_of_lt_of_le c.utf8Size_pos (Nat.le_add_right _ _)

theorem size_bytes (source : String) : source.toByteArray.size = byteCount source.toList := by
  rw [String.size_toByteArray, byteCount_eq, String.utf8Len_toList]

/-- A character of one byte stands where the bytes before it end. -/
theorem byte_of_small {source : String} {before rest : List Char} {c : Char}
    (spelling : source.toList = before ++ c :: rest) (small : c.utf8Size = 1)
    (inside : byteCount before < source.toByteArray.size) :
    source.toByteArray[byteCount before] = c.val.toUInt8 := by
  have bytes : source.toByteArray = before.utf8Encode ++ ([c].utf8Encode ++ rest.utf8Encode) := by
    rw [← source.ofList_toList, spelling, String.toByteArray_ofList, List.utf8Encode_append,
      List.utf8Encode_cons]
  have ahead : before.utf8Encode.size = byteCount before := by
    rw [← String.toByteArray_ofList, size_bytes, String.toList_ofList]
  have one : [c].utf8Encode = [c.val.toUInt8].toByteArray := by
    rw [List.utf8Encode_singleton, String.utf8EncodeChar_eq_singleton small]
  simp only [bytes, one]
  rw [ByteArray.getElem_append_right (Nat.le_of_eq ahead)]
  simp only [ahead, Nat.sub_self]
  have first : 0 < [c.val.toUInt8].toByteArray.size := by
    rw [List.size_toByteArray]
    exact Nat.zero_lt_one
  rw [ByteArray.getElem_append_left first, List.getElem_toByteArray]
  rfl

theorem blank_byte {c : Char} (separates : isBlank c = true) :
    c.utf8Size = 1 ∧ c.val.toUInt8 ∈ ([0x20, 0x09, 0x0d] : List UInt8) := by
  simp only [isBlank, Bool.or_eq_true, decide_eq_true_eq] at separates
  rcases separates with (rfl | rfl) | rfl <;> decide

theorem isBlank_eq_false {test : Char → Bool} {c : Char} (passes : test c = true)
    (space : test ' ' = false) (tab : test '\t' = false) (carriageReturn : test '\r' = false) :
    isBlank c = false := by
  have other : ∀ blank, test blank = false → c ≠ blank := by
    rintro blank fails rfl
    rw [fails] at passes
    cases passes
  simp [isBlank, other ' ' space, other '\t' tab, other '\r' carriageReturn]

/-! ## The form of the lexer's answer -/

/-- How blanks and tokens spell characters that begin at a byte offset.  The
lexer is only asked to produce this; all that is said of its tokens follows from
it by induction. -/
inductive Spelled : Nat → List Char → List Token → Prop
  | finish (position : Nat) : Spelled position [] [⟨.endOfFile, ⟨position, position⟩, ""⟩]
  | blank {position : Nat} {c : Char} {rest : List Char} {tokens : List Token}
      (separates : isBlank c = true) (others : Spelled (position + c.utf8Size) rest tokens) :
      Spelled position (c :: rest) tokens
  | token {position : Nat} {kind : TokenKind} {text rest : List Char} {tokens : List Token}
      (ordinary : kind ≠ .endOfFile) (nonempty : text ≠ [])
      (others : Spelled (position + byteCount text) rest tokens) :
      Spelled position (text ++ rest)
        (⟨kind, ⟨position, position + byteCount text⟩, String.ofList text⟩ :: tokens)

theorem nameKind_mem (name : List Char) :
    nameKind name ∈ ([.lp, .assignment, .transport, .maximize, .minimize, .identifier] :
      List TokenKind) := by
  unfold nameKind
  split_ifs <;> decide

theorem nameKind_ne {kind : TokenKind} (name : List Char)
    (other : kind ∉ ([.lp, .assignment, .transport, .maximize, .minimize, .identifier] :
      List TokenKind)) : nameKind name ≠ kind :=
  fun same => other (same ▸ nameKind_mem name)

theorem munch_ne_endOfFile (alphabet : Alphabet) (c : Char) (rest : List Char) :
    (munch alphabet c rest).1 ≠ .endOfFile := by
  unfold munch
  split <;> (try split_ifs) <;> first
    | exact nameKind_ne _ (by decide)
    | exact nofun

namespace Spelled

variable {position : Nat} {chars : List Char} {tokens : List Token}

/-- A token stands behind some of the characters and holds those that follow. -/
theorem place (spelled : Spelled position chars tokens) {token : Token} (member : token ∈ tokens) :
    ∃ skipped text rest, chars = skipped ++ text ++ rest ∧ token.text = String.ofList text ∧
      token.span.start = position + byteCount skipped ∧
      token.span.stop = position + byteCount skipped + byteCount text := by
  induction spelled with
  | finish position =>
      rcases List.mem_singleton.mp member with rfl
      exact ⟨[], [], [], rfl, rfl, rfl, rfl⟩
  | @blank position c rest tokens _ _ inductionHypothesis =>
      rcases inductionHypothesis member with ⟨skipped, text, after, rfl, written, start, stop⟩
      refine ⟨c :: skipped, text, after, rfl, written, ?_, ?_⟩ <;> rw [byteCount] <;> omega
  | @token position kind text rest tokens _ _ _ inductionHypothesis =>
      cases List.mem_cons.mp member with
      | inl first =>
          subst first
          exact ⟨[], text, rest, rfl, rfl, rfl, rfl⟩
      | inr later =>
          rcases inductionHypothesis later with ⟨skipped, own, after, rfl, written, start, stop⟩
          refine ⟨text ++ skipped, own, after, by simp only [List.append_assoc], written, ?_, ?_⟩ <;>
            rw [byteCount_append] <;> omega

theorem position_le_start (spelled : Spelled position chars tokens) {token : Token}
    (member : token ∈ tokens) : position ≤ token.span.start := by
  rcases spelled.place member with ⟨skipped, _, _, _, _, start, _⟩
  omega

theorem ordered (spelled : Spelled position chars tokens) :
    tokens.Pairwise fun earlier later => earlier.span.stop ≤ later.span.start := by
  induction spelled with
  | finish position => exact List.pairwise_singleton _ _
  | blank _ _ inductionHypothesis => exact inductionHypothesis
  | token _ _ others inductionHypothesis =>
      exact List.pairwise_cons.mpr
        ⟨fun later member => others.position_le_start member, inductionHypothesis⟩

/-- The token that marks the end comes last and only there, and no other token
is empty. -/
theorem closed (spelled : Spelled position chars tokens) :
    ∃ proper : List Token,
      tokens = proper ++ [⟨.endOfFile,
        ⟨position + byteCount chars, position + byteCount chars⟩, ""⟩] ∧
      ∀ token ∈ proper, token.kind ≠ .endOfFile ∧ token.text ≠ "" ∧
        token.span.start < token.span.stop := by
  induction spelled with
  | finish position => exact ⟨[], rfl, fun _ member => absurd member List.not_mem_nil⟩
  | @blank position c rest tokens _ _ inductionHypothesis =>
      rcases inductionHypothesis with ⟨proper, rfl, own⟩
      exact ⟨proper, by rw [byteCount, Nat.add_assoc], own⟩
  | @token position kind text rest tokens ordinary nonempty _ inductionHypothesis =>
      rcases inductionHypothesis with ⟨proper, rfl, own⟩
      refine ⟨_ :: proper, by rw [byteCount_append, Nat.add_assoc]; rfl, ?_⟩
      refine List.forall_mem_cons.mpr ⟨⟨ordinary, ?_, ?_⟩, own⟩
      · exact fun empty => nonempty (String.ofList_eq_empty_iff.mp empty)
      · exact Nat.lt_add_of_pos_right (byteCount_pos nonempty)

theorem ne_nil (spelled : Spelled position chars tokens) : tokens ≠ [] := by
  rcases spelled.closed with ⟨proper, rfl, _⟩
  exact List.append_ne_nil_of_right_ne_nil _ (List.cons_ne_nil _ _)

/-- A byte that belongs to no token is the byte of a blank.  Blanks have one
byte each, so the byte tells which one it is. -/
theorem blank_of_uncovered (spelled : Spelled position chars tokens) {source : String}
    {before : List Char} (spelling : source.toList = before ++ chars)
    (ahead : byteCount before = position) {i : Nat} (inside : i < source.toByteArray.size)
    (behind : position ≤ i)
    (uncovered : ∀ token ∈ tokens, ¬ (token.span.start ≤ i ∧ i < token.span.stop)) :
    source.toByteArray[i] ∈ ([0x20, 0x09, 0x0d] : List UInt8) := by
  induction spelled generalizing before with
  | finish position =>
      rw [size_bytes, spelling, List.append_nil] at inside
      omega
  | @blank position c rest tokens separates _ inductionHypothesis =>
      have small := blank_byte separates
      rcases Nat.eq_or_lt_of_le behind with here | later
      · subst ahead here
        rw [byte_of_small spelling small.1 inside]
        exact small.2
      · have onward : source.toList = before ++ [c] ++ rest := by simp [spelling]
        refine inductionHypothesis onward ?_ ?_ uncovered
        · rw [byteCount_append, byteCount, byteCount, ahead, Nat.add_zero]
        · omega
  | @token position kind text rest tokens _ _ _ inductionHypothesis =>
      have missed := uncovered _ List.mem_cons_self
      have onward : source.toList = before ++ text ++ rest := by simp [spelling]
      refine inductionHypothesis onward ?_ ?_
        fun token member => uncovered token (List.mem_cons_of_mem _ member)
      · rw [byteCount_append, ahead]
      · exact Nat.le_of_not_lt fun within => missed ⟨behind, within⟩

/-- Tokens and blanks take turns, so the text is the tokens' texts with blanks
before each. -/
theorem interleaved (spelled : Spelled position chars tokens) :
    ∃ gaps : List (List Char), gaps.length = tokens.length ∧
      (∀ gap ∈ gaps, ∀ c ∈ gap, c = ' ' ∨ c = '\t' ∨ c = '\r') ∧
      chars = (List.zipWith (fun gap token => gap ++ token.text.toList) gaps tokens).flatten := by
  induction spelled with
  | finish position => exact ⟨[[]], rfl, by simp, rfl⟩
  | @blank position c rest tokens separates others inductionHypothesis =>
      rcases inductionHypothesis with ⟨gaps, sameLength, blanks, written⟩
      rcases List.exists_cons_of_ne_nil others.ne_nil with ⟨token, tokens, rfl⟩
      rcases List.exists_cons_of_length_eq_add_one sameLength with ⟨gap, gaps, rfl⟩
      refine ⟨(c :: gap) :: gaps, sameLength, ?_, ?_⟩
      · simp only [isBlank, Bool.or_eq_true, decide_eq_true_eq, or_assoc] at separates
        simp only [List.forall_mem_cons] at blanks ⊢
        exact ⟨⟨separates, blanks.1⟩, blanks.2⟩
      · rw [written]
        simp only [List.zipWith_cons_cons, List.flatten_cons, List.cons_append]
  | @token position kind text rest tokens _ _ _ inductionHypothesis =>
      rcases inductionHypothesis with ⟨gaps, sameLength, blanks, written⟩
      refine ⟨[] :: gaps, by simp [sameLength], by simpa using blanks, ?_⟩
      simp [← written]

end Spelled

/-! ## What the form says of a text -/

/-- Tokens that tell a text completely.  Offsets are bytes of its UTF-8 form,
and the text is put together again from the tokens and the gaps between them. -/
structure Lossless (source : String) (tokens : List Token) : Prop where
  /-- Every token but the last is an ordinary one that is not empty; the last
  one marks the end. -/
  closed : ∃ proper : List Token,
    tokens = proper ++ [⟨.endOfFile, ⟨source.utf8ByteSize, source.utf8ByteSize⟩, ""⟩] ∧
    ∀ token ∈ proper, token.kind ≠ .endOfFile ∧ token.text ≠ "" ∧
      token.span.start < token.span.stop
  ordered : tokens.Pairwise fun earlier later => earlier.span.stop ≤ later.span.start
  within : ∀ token ∈ tokens,
    token.span.start ≤ token.span.stop ∧ token.span.stop ≤ source.utf8ByteSize
  /-- No token begins or ends inside a character. -/
  boundaries : ∀ token ∈ tokens, String.Pos.Raw.IsValid source ⟨token.span.start⟩ ∧
    String.Pos.Raw.IsValid source ⟨token.span.stop⟩
  slices : ∀ token ∈ tokens,
    String.Pos.Raw.extract source ⟨token.span.start⟩ ⟨token.span.stop⟩ = token.text
  /-- Outside of the tokens there are only spaces, tabs and carriage returns. -/
  gaps : ∀ (i : Nat) (inside : i < source.toByteArray.size),
    (∀ token ∈ tokens, ¬ (token.span.start ≤ i ∧ i < token.span.stop)) →
      source.toByteArray[i] ∈ ([0x20, 0x09, 0x0d] : List UInt8)
  interleaved : ∃ gaps : List (List Char), gaps.length = tokens.length ∧
    (∀ gap ∈ gaps, ∀ c ∈ gap, c = ' ' ∨ c = '\t' ∨ c = '\r') ∧
    source.toList =
      (List.zipWith (fun gap token => gap ++ token.text.toList) gaps tokens).flatten

namespace Spelled

variable {source : String} {tokens : List Token}

/-- Both ends of a token cut the text between characters. -/
theorem cuts (spelled : Spelled 0 source.toList tokens) {token : Token}
    (member : token ∈ tokens) :
    ∃ before text after, source = String.ofList (before ++ text ++ after) ∧
      token.text = String.ofList text ∧ token.span.start = byteCount before ∧
      token.span.stop = byteCount before + byteCount text := by
  rcases spelled.place member with ⟨before, text, after, spelling, written, start, stop⟩
  exact ⟨before, text, after, by rw [← spelling, String.ofList_toList], written,
    by omega, by omega⟩

theorem lossless (spelled : Spelled 0 source.toList tokens) : Lossless source tokens where
  closed := by
    have size : 0 + byteCount source.toList = source.utf8ByteSize := by
      rw [Nat.zero_add, ← size_bytes, String.size_toByteArray]
    exact size ▸ spelled.closed
  ordered := spelled.ordered
  within := by
    intro token member
    rcases spelled.cuts member with ⟨before, text, after, rfl, _, start, stop⟩
    have size : (String.ofList (before ++ text ++ after)).utf8ByteSize =
        byteCount before + byteCount text + byteCount after := by
      rw [String.utf8ByteSize_ofList, ← byteCount_eq, byteCount_append, byteCount_append]
    omega
  boundaries := by
    intro token member
    rcases spelled.cuts member with ⟨before, text, after, rfl, _, start, stop⟩
    rw [start, stop, ← byteCount_append]
    simp only [byteCount_eq, ← String.rawEndPos_ofList, String.Pos.Raw.isValid_iff_exists_append]
    exact ⟨⟨_, _, by rw [List.append_assoc, String.ofList_append], rfl⟩,
      ⟨_, _, String.ofList_append, rfl⟩⟩
  slices := by
    intro token member
    rcases spelled.cuts member with ⟨before, text, after, rfl, written, start, stop⟩
    rw [start, stop, written, byteCount_eq, byteCount_eq]
    exact String.extract_of_valid before text after
  gaps := by
    have spelling : source.toList = [] ++ source.toList := rfl
    exact fun _ inside => spelled.blank_of_uncovered spelling rfl inside (Nat.zero_le _)
  interleaved := spelled.interleaved

end Spelled

/-! ## Tokens one by one -/

/-- Characters that the lexer takes as one token, with `rest` behind them. -/
def LexedAs (alphabet : Alphabet) (kind : TokenKind) (text rest : List Char) : Prop :=
  ∃ c others, text = c :: others ∧ isBlank c = false ∧
    munch alphabet c (others ++ rest) = (kind, others.length)

theorem tokensFrom_of_lexedAs {alphabet : Alphabet} {kind : TokenKind} {text rest : List Char}
    (lexed : LexedAs alphabet kind text rest) (position : Nat) :
    ∃ place stop, tokensFrom alphabet position (text ++ rest) =
      ⟨kind, place, String.ofList text⟩ :: tokensFrom alphabet stop rest := by
  rcases lexed with ⟨c, others, rfl, ordinary, munched⟩
  refine ⟨⟨position, position + byteCount (c :: others)⟩,
    position + byteCount (c :: others), ?_⟩
  rw [List.cons_append, tokensFrom, if_neg (by simp [ordinary])]
  simp only [munched, List.take_left, List.drop_left]

theorem tokensFrom_space (alphabet : Alphabet) (position : Nat) (rest : List Char) :
    ∃ stop, tokensFrom alphabet position (' ' :: rest) = tokensFrom alphabet stop rest :=
  ⟨position + ' '.utf8Size, by rw [tokensFrom, if_pos (by decide)]⟩

theorem takeWhile_of_reach (test : Char → Bool) (chars : List Char) :
    chars.take (reach test chars) = chars.takeWhile test :=
  (List.prefix_iff_eq_take.mp (List.takeWhile_prefix test)).symm

theorem reach_run {test : Char → Bool} {run rest : List Char} (all : ∀ c ∈ run, test c = true)
    (stops : ∀ c ∈ rest.head?, test c = false) : reach test (run ++ rest) = run.length := by
  have none : rest.takeWhile test = [] := by
    cases rest with
    | nil => rfl
    | cons c rest => exact List.takeWhile_cons_of_neg (by simp [stops c rfl])
  rw [reach, List.takeWhile_append_of_pos all, none, List.append_nil]

/-- A token other than the last one is recognised from the characters at its
place. -/
theorem munched_of_mem {alphabet : Alphabet} {position : Nat} {chars : List Char} {token : Token}
    (member : token ∈ tokensFrom alphabet position chars) (ordinary : token.kind ≠ .endOfFile) :
    ∃ before c rest, chars = before ++ c :: rest ∧
      token.span.start = position + byteCount before ∧
      token.kind = (munch alphabet c rest).1 ∧
      token.text.toList = c :: rest.take (munch alphabet c rest).2 := by
  induction position, chars using tokensFrom.induct alphabet with
  | case1 position =>
      rw [tokensFrom] at member
      rcases List.mem_singleton.mp member with rfl
      exact absurd rfl ordinary
  | case2 position c rest separates inductionHypothesis =>
      rw [tokensFrom, if_pos separates] at member
      rcases inductionHypothesis member with ⟨before, d, after, rfl, start, munched⟩
      refine ⟨c :: before, d, after, rfl, ?_, munched⟩
      rw [start, byteCount, Nat.add_assoc]
  | case3 position c rest solid found text stop inductionHypothesis =>
      rw [tokensFrom, if_neg solid] at member
      rcases List.mem_cons.mp member with rfl | later
      · exact ⟨[], c, rest, rfl, rfl, rfl, String.toList_ofList⟩
      · rcases inductionHypothesis later with ⟨before, d, after, shown, start, munched⟩
        refine ⟨text ++ before, d, after, ?_, ?_, munched⟩
        · rw [List.append_assoc, ← shown, List.cons_append, List.take_append_drop]
        · rw [start, byteCount_append, Nat.add_assoc]

end Language
end Optimum
