import Optimum.Proofs.Language.Literals
import Optimum.Proofs.Language.NormalForms

namespace Optimum
namespace Language

/-!
# Texts of models of data

A model of data may be written in many ways: its sections come in any order,
each with or without a colon, and spaces, line ends and block comments stand
between the parts in any number.  All these texts together are a language, given
here by unions and products as that of literals is.

Entries of a list are parted by at least one character, of which one may be a
comma.  Whatever has to stand apart from what follows is followed by a
character that neither names nor literals contain (`Parted`).
-/

/-! ## Gaps -/

def mark (c : Char) : Language Char :=
  {[c]}

def word (name : String) : Language Char :=
  {name.toList}

/-- The characters that blanks are made of, in any number. -/
def blanks : Language Char :=
  {text | ∀ c ∈ text, isBlank c = true}

/-- Blanks, line ends and block comments in any number and order.  The closing
mark of a comment stands at its end only. -/
inductive IsGap : List Char → Prop
  | empty : IsGap []
  | blank {c : Char} {rest : List Char} (separates : isBlank c = true) (more : IsGap rest) :
      IsGap (c :: rest)
  | newline {rest : List Char} (more : IsGap rest) : IsGap ('\n' :: rest)
  | comment {content rest : List Char} (inner : ¬ ['*', '/'] <:+: content) (more : IsGap rest) :
      IsGap ('/' :: '*' :: (content ++ ['*', '/']) ++ rest)

def gap : Language Char :=
  {text | IsGap text}

/-- A gap that may hold one comma, and that is not empty.  Without it two labels
would be one word, and two numbers one number. -/
def separator : Language Char :=
  {text | text ≠ [] ∧ text ∈ gap * (1 + mark ',' * gap)}

def space : Language Char :=
  {text | text ≠ [] ∧ text ∈ gap}

/-! ## Entries -/

/-- A label that may stand between double quotes. -/
def IsQuotable (label : String) : Prop :=
  ∀ c ∈ label.toList, c ≠ '"' ∧ c ≠ '\n'

instance (label : String) : Decidable (IsQuotable label) :=
  decidable_of_iff (label.toList.all (fun c => decide (c ≠ '"' ∧ c ≠ '\n')) = true)
    (by simp [IsQuotable])

/-- A label between double quotes, which are no part of it.  Only such a label
may hold blanks and marks. -/
def quotedLabel (label : String) : Language Char :=
  {text | IsQuotable label ∧ text = '"' :: (label.toList ++ ['"'])}

section Numbers

variable {α : Type} [NumberText α]

/-- A literal that denotes the value.  There are many, and the text may use any
of them. -/
def numeral (value : α) : Language Char :=
  {text | text ∈ literal ∧ NumberText.read? (String.ofList text) = some value}

/-- A literal, or a minus sign directly before one. -/
def signedNumeral [Neg α] (value : α) : Language Char :=
  {text | text ∈ numeral value ∨
    ∃ magnitude, value = -magnitude ∧ text ∈ mark '-' * numeral magnitude}

end Numbers

section Lists

variable {β : Type}

/-- Entries with separators between them. -/
def listed (form : β → Language Char) : List β → Language Char
  | [] => 1
  | [value] => form value
  | value :: next :: others => form value * (separator * listed form (next :: others))

def enclosed (opening closing : Char) (form : β → Language Char) (values : List β) :
    Language Char :=
  mark opening * (gap * (listed form values * (gap * mark closing)))

def labelList (labels : List String) : Language Char :=
  enclosed '[' ']' quotedLabel labels

variable {α : Type} [NumberText α] [Neg α]

def numberList (values : List α) : Language Char :=
  enclosed '[' ']' signedNumeral values

def numberTable (rows : List (List α)) : Language Char :=
  enclosed '{' '}' numberList rows

end Lists

/-! ## Models -/

/-- A section: its heading, perhaps a colon, and its body. -/
def headed (heading : String) (body : Language Char) : Language Char :=
  word heading * ((1 + blanks * mark ':') * (gap * body))

/-- Sections with gaps between them. -/
def inSequence : List (Language Char) → Language Char
  | [] => 1
  | first :: others => first * (gap * inSequence others)

/-- A keyword, a name and sections in braces, perhaps with gaps around them. -/
def modelText (keyword name : String) (sections : List (Language Char)) : Language Char :=
  gap * (word keyword * (space * (word name *
    (gap * (mark '{' * (gap * (inSequence sections * (mark '}' * gap))))))))

variable {α : Type}

/-- A section that an assignment model may have.  Sections have an order in a
text and none in a model, so they are data of their own here. -/
inductive AssignmentSection (α : Type)
  | rows (labels : List String)
  | columns (labels : List String)
  | costs (entries : List (List α))

namespace AssignmentSection

def heading : AssignmentSection α → String
  | .rows _ => "rows"
  | .columns _ => "cols"
  | .costs _ => "costs"

def body [NumberText α] [Neg α] : AssignmentSection α → Language Char
  | .rows labels => labelList labels
  | .columns labels => labelList labels
  | .costs entries => numberTable entries

end AssignmentSection

/-- A section that a transport model may have. -/
inductive TransportSection (α : Type)
  | sources (labels : List String)
  | destinations (labels : List String)
  | supply (amounts : List α)
  | demand (amounts : List α)
  | costs (entries : List (List α))

namespace TransportSection

def heading : TransportSection α → String
  | .sources _ => "sources"
  | .destinations _ => "destinations"
  | .supply _ => "supply"
  | .demand _ => "demand"
  | .costs _ => "costs"

def body [NumberText α] [Neg α] : TransportSection α → Language Char
  | .sources labels => labelList labels
  | .destinations labels => labelList labels
  | .supply amounts => numberList amounts
  | .demand amounts => numberList amounts
  | .costs entries => numberTable entries

end TransportSection

/-- The sections that a model has. -/
def AssignmentModel.sections (model : AssignmentModel α) : List (AssignmentSection α) :=
  (model.rows.map .rows).toList ++ (model.columns.map .columns).toList ++
    (model.costs.map .costs).toList

/-- The sections that a model has. -/
def TransportModel.sections (model : TransportModel α) : List (TransportSection α) :=
  (model.sources.map .sources).toList ++ (model.destinations.map .destinations).toList ++
    (model.supply.map .supply).toList ++ (model.demand.map .demand).toList ++
    (model.costs.map .costs).toList

section Texts

variable [NumberText α] [Neg α]

/-- The texts of an assignment model, its sections in any order. -/
def AssignmentModel.texts (model : AssignmentModel α) : Language Char :=
  {text | IsName model.name ∧ ∃ order : List (AssignmentSection α), order.Perm model.sections ∧
    text ∈ modelText "assignment" model.name
      (order.map fun given => headed given.heading given.body)}

/-- The texts of a transport model, its sections in any order. -/
def TransportModel.texts (model : TransportModel α) : Language Char :=
  {text | IsName model.name ∧ ∃ order : List (TransportSection α), order.Perm model.sections ∧
    text ∈ modelText "transport" model.name
      (order.map fun given => headed given.heading given.body)}

end Texts

/-! ## Names -/

theorem isName_iff {name : String} :
    IsName name ↔ name.toList.head?.any Alphabet.unicode.startsName = true ∧
      name.toList.tail.all Alphabet.unicode.continuesName = true ∧
      nameKind name.toList = .identifier := by
  constructor
  · rintro ⟨first, others, spelled, begins, continues, free⟩
    rw [spelled]
    exact ⟨begins, List.all_eq_true.mpr continues, free⟩
  · rintro ⟨begins, continues, free⟩
    cases spelled : name.toList with
    | nil => simp [spelled] at begins
    | cons first others =>
        rw [spelled] at begins continues free
        exact ⟨first, others, spelled, begins, List.all_eq_true.mp continues, free⟩

instance (name : String) : Decidable (IsName name) :=
  decidable_of_iff _ isName_iff.symm

/-! ## Characters that part words -/

/-- The marks that may stand behind a name or a literal. -/
def partingMarks : List Char :=
  [' ', '\t', '\r', '\n', '/', ',', ':', '[', ']', '{', '}']

/-- What follows a name or a literal: anything that does not prolong it.  It
need not be a gap, since a bracket parts as well. -/
def Parted (rest : List Char) : Prop :=
  ∀ c ∈ rest.head?, c ∈ partingMarks

theorem parted_cons {c : Char} (parts : c ∈ partingMarks) (rest : List Char) :
    Parted (c :: rest) := by
  rintro _ ⟨⟩
  exact parts

theorem Parted.stops {rest : List Char} (parted : Parted rest) {test : Char → Bool}
    (fails : ∀ c ∈ partingMarks, test c = false) : ∀ c ∈ rest.head?, test c = false :=
  fun c first => fails c (parted c first)

theorem mem_partingMarks_of_isBlank {c : Char} (blank : isBlank c = true) : c ∈ partingMarks := by
  simp only [isBlank, Bool.or_eq_true, decide_eq_true_eq] at blank
  rcases blank with (rfl | rfl) | rfl <;> decide

theorem mem_mark_mul {c : Char} {language : Language Char} {text : List Char} :
    text ∈ mark c * language ↔ ∃ others ∈ language, text = c :: others := by
  rw [Language.mem_mul]
  constructor
  · rintro ⟨_, rfl, others, inside, rfl⟩
    exact ⟨others, inside, rfl⟩
  · rintro ⟨others, inside, rfl⟩
    exact ⟨[c], rfl, others, inside, rfl⟩

theorem IsGap.append {text others : List Char} (first : IsGap text) (second : IsGap others) :
    IsGap (text ++ others) := by
  induction first with
  | empty => exact second
  | blank separates _ inductionHypothesis => exact .blank separates inductionHypothesis
  | newline _ inductionHypothesis => exact .newline inductionHypothesis
  | comment inner _ inductionHypothesis =>
      rw [List.append_assoc]
      exact .comment inner inductionHypothesis

theorem parted_gap {text rest : List Char} (inside : text ∈ gap) (parted : Parted rest) :
    Parted (text ++ rest) := by
  cases inside with
  | empty => exact parted
  | blank separates more => exact parted_cons (mem_partingMarks_of_isBlank separates) _
  | newline more => exact parted_cons (by decide) _
  | comment inner more => exact parted_cons (by decide) _

theorem parted_of_ne_nil {text : List Char} (inside : text ∈ gap) (nonempty : text ≠ [])
    (rest : List Char) : Parted (text ++ rest) := by
  rcases List.exists_cons_of_ne_nil nonempty with ⟨c, others, rfl⟩
  have alone : Parted ((c :: others) ++ []) := parted_gap inside nofun
  exact parted_cons (alone c rfl) _

theorem parted_separator {text : List Char} (inside : text ∈ separator) (rest : List Char) :
    Parted (text ++ rest) := by
  rcases inside with ⟨nonempty, split⟩
  rcases Language.mem_mul.mp split with ⟨before, inGap, after, inRest, rfl⟩
  rcases inRest with rfl | withComma
  · rw [List.append_nil] at nonempty ⊢
    exact parted_of_ne_nil inGap nonempty rest
  · rcases mem_mark_mul.mp withComma with ⟨more, -, rfl⟩
    rw [List.append_assoc]
    exact parted_gap inGap (parted_cons (by decide) _)

end Language
end Optimum
