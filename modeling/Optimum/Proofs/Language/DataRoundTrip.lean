import Optimum.Language.Reading.Models
import Optimum.Proofs.Language.DataSections
import Optimum.Proofs.Language.DataWriting

namespace Optimum
namespace Language

/-!
# Models of data are read back

Every text of a model of data is read as that model, up to its range in the
text.  The two kinds of models differ in their sections only: what fills a slot,
and which reader takes the body.
-/

/-! ## Slots -/

section Slots

variable {β γ σ : Type}

theorem Takes.fillWith {language : Language Char} {ends : List Char → Prop}
    {reader : Cursor → Except ParseError (β × Cursor)} {value : β}
    (takes : Takes language ends reader value) {slot : Option β} (vacant : slot = none)
    (heading : Token) (update : Option β → γ) :
    Takes language ends (fun cursor => fillWith (reader cursor) heading slot update)
      (update (some value)) := by
  intro before inBefore text inside rest ended cursor faces
  rcases takes before inBefore text inside rest ended cursor faces with ⟨next, read, facing⟩
  refine ⟨next, ?_, facing⟩
  dsimp only
  rw [read, vacant]
  rfl

theorem map_heading_sublist (heading : σ → String) (wrap : β → σ) (slot : Option β) {title : String}
    (titled : ∀ value, heading (wrap value) = title) :
    ((slot.map wrap).toList.map heading).Sublist [title] := by
  cases slot with
  | none => exact List.nil_sublist _
  | some value => exact (titled value ▸ List.Sublist.refl _)

end Slots

variable {α : Type}

namespace AssignmentModel

def fill (model : AssignmentModel α) : AssignmentSection α → AssignmentModel α
  | .rows labels => { model with rows := some labels }
  | .columns labels => { model with columns := some labels }
  | .costs entries => { model with costs := some entries }

/-- The slot of the section is vacant. -/
def Vacant (model : AssignmentModel α) : AssignmentSection α → Prop
  | .rows _ => model.rows = none
  | .columns _ => model.columns = none
  | .costs _ => model.costs = none

theorem fills [NumberText α] [Neg α] :
    Fills AssignmentSection.heading (AssignmentSection.body (α := α)) fill Vacant
      readAssignmentSection where
  isName := by
    rintro (_ | _ | _) <;> simp only [AssignmentSection.heading] <;> decide +kernel
  opens := by
    rintro (_ | _ | _) <;>
      first | exact ⟨'[', by decide, _, rfl⟩ | exact ⟨'{', by decide, _, rfl⟩
  takes := by
    rintro model (labels | labels | entries) heading written vacant
    · simpa [plain_readAssignmentSection, written, AssignmentSection.heading,
        AssignmentSection.body, fill] using
        (takes_labelList labels).fillWith vacant heading fun rows => { model with rows }
    · simpa [plain_readAssignmentSection, written, AssignmentSection.heading,
        AssignmentSection.body, fill] using
        (takes_labelList labels).fillWith vacant heading fun columns => { model with columns }
    · simpa [plain_readAssignmentSection, written, AssignmentSection.heading,
        AssignmentSection.body, fill] using
        (takes_numberTable entries).fillWith vacant heading fun costs => { model with costs }
  vacant_fill := by
    rintro model (_ | _ | _) (_ | _ | _) apart vacant <;>
      first | exact absurd rfl apart | exact vacant
  fill_comm := by
    rintro model (_ | _ | _) (_ | _ | _) apart <;> first | exact absurd rfl apart | rfl

theorem nodup_headings (model : AssignmentModel α) :
    (model.sections.map AssignmentSection.heading).Nodup := by
  have slots : (model.sections.map AssignmentSection.heading).Sublist
      (["rows"] ++ ["cols"] ++ ["costs"]) := by
    rw [sections, List.map_append, List.map_append]
    refine .append (.append ?_ ?_) ?_ <;> exact map_heading_sublist _ _ _ fun _ => rfl
  exact slots.nodup (by decide)

theorem foldl_fill_sections (model : AssignmentModel α) (span : Span) :
    model.sections.foldl fill ⟨span, model.name, none, none, none⟩ = { model with span } := by
  rcases model with ⟨_, _, _ | _, _ | _, _ | _⟩ <;> rfl

end AssignmentModel

namespace TransportModel

def fill (model : TransportModel α) : TransportSection α → TransportModel α
  | .sources labels => { model with sources := some labels }
  | .destinations labels => { model with destinations := some labels }
  | .supply amounts => { model with supply := some amounts }
  | .demand amounts => { model with demand := some amounts }
  | .costs entries => { model with costs := some entries }

/-- The slot of the section is vacant. -/
def Vacant (model : TransportModel α) : TransportSection α → Prop
  | .sources _ => model.sources = none
  | .destinations _ => model.destinations = none
  | .supply _ => model.supply = none
  | .demand _ => model.demand = none
  | .costs _ => model.costs = none

theorem fills [NumberText α] [Neg α] :
    Fills TransportSection.heading (TransportSection.body (α := α)) fill Vacant
      readTransportSection where
  isName := by
    rintro (_ | _ | _ | _ | _) <;> simp only [TransportSection.heading] <;> decide +kernel
  opens := by
    rintro (_ | _ | _ | _ | _) <;>
      first | exact ⟨'[', by decide, _, rfl⟩ | exact ⟨'{', by decide, _, rfl⟩
  takes := by
    rintro model (labels | labels | amounts | amounts | entries) heading written vacant
    · simpa [plain_readTransportSection, written, TransportSection.heading,
        TransportSection.body, fill] using
        (takes_labelList labels).fillWith vacant heading fun sources => { model with sources }
    · simpa [plain_readTransportSection, written, TransportSection.heading,
        TransportSection.body, fill] using
        (takes_labelList labels).fillWith vacant heading
          fun destinations => { model with destinations }
    · simpa [plain_readTransportSection, written, TransportSection.heading,
        TransportSection.body, fill] using
        (takes_numberList amounts).fillWith vacant heading fun supply => { model with supply }
    · simpa [plain_readTransportSection, written, TransportSection.heading,
        TransportSection.body, fill] using
        (takes_numberList amounts).fillWith vacant heading fun demand => { model with demand }
    · simpa [plain_readTransportSection, written, TransportSection.heading,
        TransportSection.body, fill] using
        (takes_numberTable entries).fillWith vacant heading fun costs => { model with costs }
  vacant_fill := by
    rintro model (_ | _ | _ | _ | _) (_ | _ | _ | _ | _) apart vacant <;>
      first | exact absurd rfl apart | exact vacant
  fill_comm := by
    rintro model (_ | _ | _ | _ | _) (_ | _ | _ | _ | _) apart <;>
      first | exact absurd rfl apart | rfl

theorem nodup_headings (model : TransportModel α) :
    (model.sections.map TransportSection.heading).Nodup := by
  have slots : (model.sections.map TransportSection.heading).Sublist
      (["sources"] ++ ["destinations"] ++ ["supply"] ++ ["demand"] ++ ["costs"]) := by
    simp only [sections, List.map_append]
    refine .append (.append (.append (.append ?_ ?_) ?_) ?_) ?_ <;>
      exact map_heading_sublist _ _ _ fun _ => rfl
  exact slots.nodup (by decide)

theorem foldl_fill_sections (model : TransportModel α) (span : Span) :
    model.sections.foldl fill ⟨span, model.name, none, none, none, none, none⟩ =
      { model with span } := by
  rcases model with ⟨_, _, _ | _, _ | _, _ | _, _ | _, _ | _⟩ <;> rfl

end TransportModel

/-! ## The round trip -/

variable [NumberText α] [Neg α]

theorem exists_readAssignment (model : AssignmentModel α) {text : List Char}
    (written : text ∈ model.texts) {cursor : Cursor} (faces : cursor.Faces text) :
    cursor.skipBreaks.kind = .assignment ∧ ∃ span next, plain (readItem cursor.skipBreaks) =
      .ok (.assignment { model with span }, next) ∧ next.skipBreaks.kind = .endOfFile := by
  rcases written with ⟨isName, order, permuted, inside⟩
  have opens : ∀ rest, Parted rest →
      LexedAs .unicode .assignment "assignment".toList rest :=
    lexedAs_spelled (by decide +kernel) (by decide +kernel) (by decide)
  rcases exists_readModel AssignmentModel.fills opens (by decide) isName permuted
      model.nodup_headings (fun span => ⟨span, model.name, none, none, none⟩)
      (by rintro span (_ | _ | _) <;> rfl) inside faces with
    ⟨kind, span, opened, brace, next, opening, sections, ended⟩
  refine ⟨kind, ⟨span.start, brace.span.stop⟩, next, ?_, ended⟩
  rw [AssignmentModel.foldl_fill_sections] at sections
  simp only [plain_readItem, kind, plain_readAssignmentModel, opening, sections, bind,
    Except.bind]
  rfl

theorem exists_readTransport (model : TransportModel α) {text : List Char}
    (written : text ∈ model.texts) {cursor : Cursor} (faces : cursor.Faces text) :
    cursor.skipBreaks.kind = .transport ∧ ∃ span next, plain (readItem cursor.skipBreaks) =
      .ok (.transport { model with span }, next) ∧ next.skipBreaks.kind = .endOfFile := by
  rcases written with ⟨isName, order, permuted, inside⟩
  have opens : ∀ rest, Parted rest →
      LexedAs .unicode .transport "transport".toList rest :=
    lexedAs_spelled (by decide +kernel) (by decide +kernel) (by decide)
  rcases exists_readModel TransportModel.fills opens (by decide) isName permuted
      model.nodup_headings (fun span => ⟨span, model.name, none, none, none, none, none⟩)
      (by rintro span (_ | _ | _ | _ | _) <;> rfl) inside faces with
    ⟨kind, span, opened, brace, next, opening, sections, ended⟩
  refine ⟨kind, ⟨span.start, brace.span.stop⟩, next, ?_, ended⟩
  rw [TransportModel.foldl_fill_sections] at sections
  simp only [plain_readItem, kind, plain_readTransportModel, opening, sections, bind, Except.bind]
  rfl

theorem parse_of_mem_assignmentTexts {model : AssignmentModel α} {source : String}
    (written : source.toList ∈ model.texts) :
    ∃ span, parse source = .ok ⟨[.assignment { model with span }]⟩ := by
  have faces : Cursor.Faces ⟨0, tokenize source⟩ source.toList := ⟨0, rfl⟩
  rcases exists_readAssignment model written faces with ⟨kind, span, next, read, ended⟩
  exact ⟨span, parse_of_readItem rfl (by simp [kind]) read ended⟩

theorem parse_of_mem_transportTexts {model : TransportModel α} {source : String}
    (written : source.toList ∈ model.texts) :
    ∃ span, parse source = .ok ⟨[.transport { model with span }]⟩ := by
  have faces : Cursor.Faces ⟨0, tokenize source⟩ source.toList := ⟨0, rfl⟩
  rcases exists_readTransport model written faces with ⟨kind, span, next, read, ended⟩
  exact ⟨span, parse_of_readItem rfl (by simp [kind]) read ended⟩

/-- Every model of data with a name, labels and numbers that may stand in a text
has texts, and each of them is read as that model, up to its range in the text,
whatever the order of the sections and the gaps between the entries. -/
theorem texts_parse_inverse :
    (∀ model : AssignmentModel Float,
      (model.IsWritable → ∃ source : String, source.toList ∈ model.texts) ∧
      ∀ source : String, source.toList ∈ model.texts →
        ∃ span, parse source = .ok ⟨[.assignment { model with span }]⟩) ∧
    ∀ model : TransportModel Float,
      (model.IsWritable → ∃ source : String, source.toList ∈ model.texts) ∧
      ∀ source : String, source.toList ∈ model.texts →
        ∃ span, parse source = .ok ⟨[.transport { model with span }]⟩ :=
  ⟨fun _ => ⟨AssignmentModel.exists_mem_texts, fun _ => parse_of_mem_assignmentTexts⟩,
    fun _ => ⟨TransportModel.exists_mem_texts, fun _ => parse_of_mem_transportTexts⟩⟩

/-! ## Two texts -/

/-- An assignment without columns, a label of which looks like the opening of a
comment. -/
def nightShift : AssignmentModel Float :=
  ⟨⟨0, 0⟩, "night", some ["/* 1"], none, some [[4], [-4]]⟩

/-- The costs come before the rows, with a comment between two of their rows. -/
def nightText : String :=
  "assignment night \x7b costs : \x7b[4]/* b */[-4]\x7d rows[\"/* 1\"]\x7d\n"

def haul : TransportModel Float :=
  ⟨⟨0, 0⟩, "haul", none, none, some [4], some [4, -4], none⟩

/-- A line end and a comma part the amounts, and the supply comes last. -/
def haulText : String :=
  "transport haul \x7b demand[4\n,-4]supply[4] \x7d"

theorem mem_signedNumeral_four : ['4'] ∈ signedNumeral (4 : Float) := by
  have spells : Decimal.Spells ['4'] ['4'] [] :=
    ⟨rfl, List.cons_ne_nil _ _, List.all_eq_true.mp rfl, nofun⟩
  exact .inl ⟨literal_of_spells spells, by decide +kernel⟩

theorem mem_signedNumeral_neg_four : ['-', '4'] ∈ signedNumeral (-4 : Float) := by
  have spells : Decimal.Spells ['4'] ['4'] [] :=
    ⟨rfl, List.cons_ne_nil _ _, List.all_eq_true.mp rfl, nofun⟩
  exact .inr ⟨4, rfl, Language.append_mem_mul (mem_mark '-')
    ⟨literal_of_spells spells, by decide +kernel⟩⟩

theorem mem_texts_nightShift : nightText.toList ∈ nightShift.texts := by
  have content : ¬ ['*', '/'] <:+: [' ', 'b', ' '] := by decide
  have comment : "/* b */".toList ∈ separator :=
    ⟨by decide, Language.mem_mul.mpr ⟨_, .comment content .empty, [], .inl rfl, List.append_nil _⟩⟩
  have first : _ ∈ numberList [(4 : Float)] := mem_enclosed '[' ']' mem_signedNumeral_four
  have second : _ ∈ numberList [(-4 : Float)] := mem_enclosed '[' ']' mem_signedNumeral_neg_four
  have entries : _ ∈ listed numberList [[(4 : Float)], [-4]] :=
    Language.append_mem_mul first (Language.append_mem_mul comment second)
  have colon : [' '] ++ [':'] ∈ 1 + blanks * mark ':' :=
    .inr (Language.append_mem_mul (List.forall_mem_singleton.mpr (by decide)) (mem_mark ':'))
  have costs : _ ∈ headed "costs" (numberTable [[(4 : Float)], [-4]]) :=
    mem_headed colon blank_mem_gap (mem_enclosed '{' '}' entries)
  have label : _ ∈ listed quotedLabel ["/* 1"] := mem_quotedLabel (by decide +kernel)
  have rows : _ ∈ headed "rows" (labelList ["/* 1"]) :=
    mem_headed (.inl rfl) nil_mem_gap (mem_enclosed '[' ']' label)
  have sections : _ ∈ inSequence [headed "costs" (numberTable [[(4 : Float)], [-4]]),
      headed "rows" (labelList ["/* 1"])] :=
    Language.append_mem_mul costs (Language.append_mem_mul blank_mem_gap
      (Language.append_mem_mul rows (Language.append_mem_mul nil_mem_gap rfl)))
  have written : _ ∈ modelText "assignment" "night" _ :=
    mem_modelText nil_mem_gap blank_mem_space blank_mem_gap blank_mem_gap sections
      (IsGap.newline .empty)
  exact ⟨by decide +kernel, [.costs [[4], [-4]], .rows ["/* 1"]], .swap _ _ _, written⟩

theorem mem_texts_haul : haulText.toList ∈ haul.texts := by
  have divider : ['\n', ','] ∈ separator :=
    ⟨List.cons_ne_nil _ _, Language.append_mem_mul (IsGap.newline .empty)
      (.inr (Language.append_mem_mul (mem_mark ',') nil_mem_gap))⟩
  have amounts : _ ∈ listed signedNumeral [(4 : Float), -4] :=
    Language.append_mem_mul mem_signedNumeral_four
      (Language.append_mem_mul divider mem_signedNumeral_neg_four)
  have single : _ ∈ listed signedNumeral [(4 : Float)] := mem_signedNumeral_four
  have demand : _ ∈ headed "demand" (numberList [(4 : Float), -4]) :=
    mem_headed (.inl rfl) nil_mem_gap (mem_enclosed '[' ']' amounts)
  have supply : _ ∈ headed "supply" (numberList [(4 : Float)]) :=
    mem_headed (.inl rfl) nil_mem_gap (mem_enclosed '[' ']' single)
  have sections : _ ∈ inSequence [headed "demand" (numberList [(4 : Float), -4]),
      headed "supply" (numberList [(4 : Float)])] :=
    Language.append_mem_mul demand (Language.append_mem_mul nil_mem_gap
      (Language.append_mem_mul supply (Language.append_mem_mul blank_mem_gap rfl)))
  have written : _ ∈ modelText "transport" "haul" _ :=
    mem_modelText nil_mem_gap blank_mem_space blank_mem_gap blank_mem_gap sections nil_mem_gap
  exact ⟨by decide +kernel, [.demand [4, -4], .supply [4]], .swap _ _ _, written⟩

theorem isWritable_nightShift : nightShift.IsWritable := by
  have finite : Scalar.isFinite (4 : Float) = true ∧ Scalar.isFinite (-4 : Float) = true := by
    decide +kernel
  have quotable : IsQuotable "/* 1" := by decide +kernel
  refine ⟨by decide +kernel, ?_⟩
  simp [nightShift, AssignmentModel.sections, AssignmentSection.IsWritable, finite, quotable]

theorem isWritable_haul : haul.IsWritable := by
  have finite : Scalar.isFinite (4 : Float) = true ∧ Scalar.isFinite (-4 : Float) = true := by
    decide +kernel
  refine ⟨by decide +kernel, ?_⟩
  simp [haul, TransportModel.sections, TransportSection.IsWritable, finite]

theorem texts_parse_inverse_nightShift_haul :
    (nightShift.IsWritable ∧ (∃ source : String, source.toList ∈ nightShift.texts) ∧
      nightText.toList ∈ nightShift.texts ∧
      ∃ span, parse nightText = .ok ⟨[.assignment { nightShift with span }]⟩) ∧
    haul.IsWritable ∧ (∃ source : String, source.toList ∈ haul.texts) ∧
      haulText.toList ∈ haul.texts ∧
      ∃ span, parse haulText = .ok ⟨[.transport { haul with span }]⟩ :=
  ⟨⟨isWritable_nightShift, (texts_parse_inverse.1 nightShift).1 isWritable_nightShift,
      mem_texts_nightShift, (texts_parse_inverse.1 nightShift).2 _ mem_texts_nightShift⟩,
    isWritable_haul, (texts_parse_inverse.2 haul).1 isWritable_haul, mem_texts_haul,
    (texts_parse_inverse.2 haul).2 _ mem_texts_haul⟩

end Language
end Optimum
