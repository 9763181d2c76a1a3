import Optimum.Proofs.Decimal.Signs
import Optimum.Proofs.Language.DataTexts
import Optimum.Proofs.Language.ShownTokens

namespace Optimum
namespace Language

/-!
# Models of data can be written

A model of data has texts if its name may be one in a text, no label holds a
double quote or a line end, and its numbers are finite.  The smallest texts of
all parts are put together: a number is written in full, entries have commas
between them, and every other gap that may be left out is.
-/

/-! ## Gaps -/

theorem mem_mark (c : Char) : [c] ∈ mark c :=
  rfl

theorem mem_word (name : String) : name.toList ∈ word name :=
  rfl

theorem nil_mem_gap : [] ∈ gap :=
  IsGap.empty

theorem blank_mem_gap : [' '] ∈ gap :=
  IsGap.blank (by decide) .empty

theorem blank_mem_space : [' '] ∈ space :=
  ⟨List.cons_ne_nil _ _, blank_mem_gap⟩

theorem comma_mem_separator : [','] ∈ separator :=
  ⟨List.cons_ne_nil _ _, Language.append_mem_mul nil_mem_gap
    (.inr (Language.append_mem_mul (mem_mark ',') nil_mem_gap))⟩

/-! ## Entries -/

theorem mem_quotedLabel {label : String} (quotable : IsQuotable label) :
    '"' :: (label.toList ++ ['"']) ∈ quotedLabel label :=
  ⟨quotable, rfl⟩

theorem write_mem_numeral {value : Float} (magnitude : IsMagnitude value) :
    (NumberText.write value).toList ∈ numeral value := by
  rcases magnitude with ⟨significand, exponent, finite⟩
  rcases Decimal.write_spells_read finite with ⟨⟨whole, fraction, spells⟩, denotes⟩
  refine ⟨literal_of_spells spells, ?_⟩
  rw [String.ofList_toList]
  exact denotes

/-- Every finite double is one without a sign or the negative of one.  The
former has a literal, and the latter that literal behind a minus sign. -/
theorem exists_mem_signedNumeral {value : Float} (finite : Scalar.isFinite value = true) :
    ∃ text, text ∈ signedNumeral value := by
  rcases Decimal.parts_of_isFinite finite with ⟨negative, significand, exponent, parts⟩
  cases negative with
  | false => exact ⟨_, .inl (write_mem_numeral ⟨significand, exponent, parts⟩)⟩
  | true =>
      have magnitude : IsMagnitude (-value) := ⟨significand, exponent, Decimal.parts_neg parts⟩
      exact ⟨_, .inr ⟨-value, (Decimal.neg_neg_float value).symm,
        Language.append_mem_mul (mem_mark '-') (write_mem_numeral magnitude)⟩⟩

/-! ## Lists -/

section Lists

variable {β : Type} {form : β → Language Char} {values : List β}

theorem exists_mem_listed (each : ∀ value ∈ values, ∃ text, text ∈ form value) :
    ∃ text, text ∈ listed form values := by
  induction values with
  | nil => exact ⟨[], rfl⟩
  | cons value values inductionHypothesis =>
      rcases List.forall_mem_cons.mp each with ⟨⟨text, written⟩, others⟩
      rcases inductionHypothesis others with ⟨later, more⟩
      cases values with
      | nil => exact ⟨text, written⟩
      | cons next others =>
          exact ⟨_, Language.append_mem_mul written
            (Language.append_mem_mul comma_mem_separator more)⟩

theorem mem_enclosed {text : List Char} (opening closing : Char)
    (inside : text ∈ listed form values) :
    opening :: (text ++ [closing]) ∈ enclosed opening closing form values := by
  have tail : [] ++ (text ++ ([] ++ [closing])) ∈
      gap * (listed form values * (gap * mark closing)) :=
    Language.append_mem_mul nil_mem_gap (Language.append_mem_mul inside
      (Language.append_mem_mul nil_mem_gap (mem_mark closing)))
  exact Language.append_mem_mul (mem_mark opening) tail

theorem exists_mem_enclosed {opening closing : Char}
    (each : ∀ value ∈ values, ∃ text, text ∈ form value) :
    ∃ text, text ∈ enclosed opening closing form values := by
  rcases exists_mem_listed each with ⟨text, inside⟩
  exact ⟨_, mem_enclosed opening closing inside⟩

end Lists

theorem exists_mem_labelList {labels : List String}
    (quotable : ∀ label ∈ labels, IsQuotable label) : ∃ text, text ∈ labelList labels :=
  exists_mem_enclosed fun label member => ⟨_, mem_quotedLabel (quotable label member)⟩

theorem exists_mem_numberList {values : List Float}
    (finite : ∀ value ∈ values, Scalar.isFinite value = true) :
    ∃ text, text ∈ numberList values :=
  exists_mem_enclosed fun value member => exists_mem_signedNumeral (finite value member)

theorem exists_mem_numberTable {rows : List (List Float)}
    (finite : ∀ row ∈ rows, ∀ value ∈ row, Scalar.isFinite value = true) :
    ∃ text, text ∈ numberTable rows :=
  exists_mem_enclosed fun row member => exists_mem_numberList (finite row member)

/-! ## Models -/

theorem mem_headed {heading : String} {body : Language Char} {colon between text : List Char}
    (inColon : colon ∈ 1 + blanks * mark ':') (inGap : between ∈ gap) (inside : text ∈ body) :
    heading.toList ++ (colon ++ (between ++ text)) ∈ headed heading body :=
  Language.append_mem_mul (mem_word heading)
    (Language.append_mem_mul inColon (Language.append_mem_mul inGap inside))

theorem exists_mem_headed {heading : String} {body : Language Char}
    (inside : ∃ text, text ∈ body) : ∃ text, text ∈ headed heading body := by
  rcases inside with ⟨text, inside⟩
  exact ⟨_, mem_headed (.inl rfl) nil_mem_gap inside⟩

theorem exists_mem_inSequence {sections : List (Language Char)}
    (each : ∀ form ∈ sections, ∃ text, text ∈ form) : ∃ text, text ∈ inSequence sections := by
  induction sections with
  | nil => exact ⟨[], rfl⟩
  | cons form sections inductionHypothesis =>
      rcases List.forall_mem_cons.mp each with ⟨⟨text, written⟩, others⟩
      rcases inductionHypothesis others with ⟨later, more⟩
      exact ⟨_, Language.append_mem_mul written (Language.append_mem_mul nil_mem_gap more)⟩

theorem mem_modelText {keyword name : String} {sections : List (Language Char)}
    {before apart between ahead text behind : List Char} (inBefore : before ∈ gap)
    (inSpace : apart ∈ space) (inBetween : between ∈ gap) (inAhead : ahead ∈ gap)
    (inside : text ∈ inSequence sections) (inBehind : behind ∈ gap) :
    before ++ (keyword.toList ++ (apart ++ (name.toList ++ (between ++ (['{'] ++ (ahead ++
      (text ++ (['}'] ++ behind)))))))) ∈ modelText keyword name sections := by
  have body : ahead ++ (text ++ (['}'] ++ behind)) ∈
      gap * (inSequence sections * (mark '}' * gap)) :=
    Language.append_mem_mul inAhead (Language.append_mem_mul inside
      (Language.append_mem_mul (mem_mark '}') inBehind))
  exact Language.append_mem_mul inBefore (Language.append_mem_mul (mem_word keyword)
    (Language.append_mem_mul inSpace (Language.append_mem_mul (mem_word name)
      (Language.append_mem_mul inBetween (Language.append_mem_mul (mem_mark '{') body)))))

theorem exists_mem_modelText (keyword name : String) {sections : List (Language Char)}
    (each : ∀ form ∈ sections, ∃ text, text ∈ form) :
    ∃ source : String, source.toList ∈ modelText keyword name sections := by
  rcases exists_mem_inSequence each with ⟨text, inside⟩
  have written : _ ∈ modelText keyword name sections :=
    mem_modelText nil_mem_gap blank_mem_space nil_mem_gap nil_mem_gap inside nil_mem_gap
  exact ⟨String.ofList _, by rwa [String.toList_ofList]⟩

def AssignmentSection.IsWritable : AssignmentSection Float → Prop
  | .rows labels => ∀ label ∈ labels, IsQuotable label
  | .columns labels => ∀ label ∈ labels, IsQuotable label
  | .costs entries => ∀ row ∈ entries, ∀ value ∈ row, Scalar.isFinite value = true

def TransportSection.IsWritable : TransportSection Float → Prop
  | .sources labels => ∀ label ∈ labels, IsQuotable label
  | .destinations labels => ∀ label ∈ labels, IsQuotable label
  | .supply amounts => ∀ value ∈ amounts, Scalar.isFinite value = true
  | .demand amounts => ∀ value ∈ amounts, Scalar.isFinite value = true
  | .costs entries => ∀ row ∈ entries, ∀ value ∈ row, Scalar.isFinite value = true

/-- A model with a name, labels and numbers that may stand in a text.  Models
that are read from a text are such, but not all that a program can build. -/
def AssignmentModel.IsWritable (model : AssignmentModel Float) : Prop :=
  IsName model.name ∧ ∀ given ∈ model.sections, given.IsWritable

/-- A model with a name, labels and numbers that may stand in a text. -/
def TransportModel.IsWritable (model : TransportModel Float) : Prop :=
  IsName model.name ∧ ∀ given ∈ model.sections, given.IsWritable

theorem AssignmentModel.exists_mem_texts {model : AssignmentModel Float}
    (writable : model.IsWritable) : ∃ source : String, source.toList ∈ model.texts := by
  have each : ∀ form ∈ model.sections.map fun given => headed given.heading given.body,
      ∃ text, text ∈ form := by
    refine List.forall_mem_map.mpr fun given member => exists_mem_headed ?_
    have fits := writable.2 given member
    cases given with
    | rows labels => exact exists_mem_labelList fits
    | columns labels => exact exists_mem_labelList fits
    | costs entries => exact exists_mem_numberTable fits
  rcases exists_mem_modelText "assignment" model.name each with ⟨source, inside⟩
  exact ⟨source, writable.1, model.sections, .refl _, inside⟩

theorem TransportModel.exists_mem_texts {model : TransportModel Float}
    (writable : model.IsWritable) : ∃ source : String, source.toList ∈ model.texts := by
  have each : ∀ form ∈ model.sections.map fun given => headed given.heading given.body,
      ∃ text, text ∈ form := by
    refine List.forall_mem_map.mpr fun given member => exists_mem_headed ?_
    have fits := writable.2 given member
    cases given with
    | sources labels => exact exists_mem_labelList fits
    | destinations labels => exact exists_mem_labelList fits
    | supply amounts => exact exists_mem_numberList fits
    | demand amounts => exact exists_mem_numberList fits
    | costs entries => exact exists_mem_numberTable fits
  rcases exists_mem_modelText "transport" model.name each with ⟨source, inside⟩
  exact ⟨source, writable.1, model.sections, .refl _, inside⟩

end Language
end Optimum
