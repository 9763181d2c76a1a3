import Optimum.Language.Reading.Models
import Optimum.Proofs.Language.Faults

namespace Optimum
namespace Language

open Checks

/-!
# How programs are written

Each statement of a program is written by tokens that stand together in its
text: they derive it, comments left out, and its span reaches from the first to
the last of them (`written_of_parse`).
-/

variable {α : Type} [NumberText α]

/-- The statements of a linear model are written by tokens of a list.  The
objective and the constraints may come in any order. -/
structure LinearModel.WrittenIn (tokens : List Token) (model : LinearModel α) : Prop where
  objective : ∀ objective ∈ model.objective,
    Language.WrittenIn IsObjective tokens objective objective.span
  constraints : ∀ declaration ∈ model.constraints,
    Language.WrittenIn IsDeclaration tokens declaration declaration.span

theorem written_of_readStatements {tokens : List Token} (cursor : Cursor) :
    ∀ (model all : LinearModel α) (next : Cursor), cursor.rest <:+ tokens →
      model.WrittenIn tokens → plain (readStatements model cursor) = .ok (all, next) →
      all.WrittenIn tokens := by
  induction cursor using Cursor.size_induction with
  | step cursor inductionHypothesis =>
      intro model all next within written read
      have skipped := cursor.size_skipBreaks_le
      have suffix := cursor.suffix_skipBreaks.trans within
      rw [plain_readStatements] at read
      split at read
      · cases read
      · next token rest shown =>
          rw [Cursor.size_of_rest shown, List.length_cons] at skipped
          split at read
          · cases read
            exact ⟨written.objective, written.constraints⟩
          · split at read
            · next sense opens =>
                rcases bind_eq_ok_iff.mp read with ⟨⟨tree, middle⟩, readTree, onward⟩
                rcases passes_of_objective shown opens readTree with ⟨own, passes, derived, span⟩
                dsimp only at onward
                split at onward
                · cases onward
                · rcases bind_eq_ok_iff.mp onward with ⟨⟨⟨⟩, last⟩, readEnd, others⟩
                  have reached : last.rest <:+ tokens :=
                    ((traced_readStatementEnd (α := α) _).suffix readEnd).trans (passes.suffix.trans suffix)
                  have declared : LinearModel.WrittenIn tokens { model with
                      objective := some ⟨⟨token.span.start, middle.stop⟩, sense, tree⟩ } :=
                    { objective := by
                        rintro _ ⟨⟩
                        exact ⟨own, passes.isInfix suffix, derived, span⟩
                      constraints := written.constraints }
                  refine inductionHypothesis last ?_ _ all next reached declared others
                  exact Nat.lt_of_le_of_lt (Nat.le_of_lt_succ (size_lt_of_plain readEnd))
                    (Nat.lt_trans (size_lt_of_plain readTree) skipped)
            · rcases bind_eq_ok_iff.mp read with ⟨⟨declaration, middle⟩, readDeclared, onward⟩
              rcases bind_eq_ok_iff.mp onward with ⟨⟨⟨⟩, last⟩, readEnd, others⟩
              rcases passes_of_readDeclaration readDeclared with ⟨own, passes, derived, span⟩
              have reached : last.rest <:+ tokens :=
                ((traced_readStatementEnd (α := α) _).suffix readEnd).trans (passes.suffix.trans suffix)
              have declared : LinearModel.WrittenIn tokens
                  { model with constraints := model.constraints ++ [declaration] } :=
                ⟨written.objective, List.forall_mem_append.mpr ⟨written.constraints,
                  List.forall_mem_singleton.mpr ⟨own, passes.isInfix suffix, derived, span⟩⟩⟩
              refine inductionHypothesis last ?_ _ all next reached declared others
              exact Nat.lt_of_le_of_lt (Nat.le_of_lt_succ (size_lt_of_plain readEnd))
                (Nat.lt_of_lt_of_le (size_lt_of_plain readDeclared) cursor.size_skipBreaks_le)

/-- The statements of a model are written by tokens of a list. -/
def Item.WrittenIn (tokens : List Token) : Item α → Prop
  | .lp model => model.WrittenIn tokens
  | _ => True

variable [Neg α]

theorem written_of_readItem {tokens : List Token} {cursor next : Cursor} {item : Item α}
    (within : cursor.rest <:+ tokens) (read : plain (readItem cursor) = .ok (item, next)) :
    item.WrittenIn tokens := by
  rw [plain_readItem] at read
  split at read
  · rcases map_eq_ok_iff.mp read with ⟨⟨model, last⟩, readModel, answered⟩
    cases answered
    rw [plain_readLinearModel] at readModel
    rcases bind_eq_ok_iff.mp readModel with ⟨⟨opening, middle⟩, readOpen, readAll⟩
    have opened := (traced_readOpening (α := α) .lp cursor).suffix readOpen
    have empty : (⟨opening.1, opening.2, none, []⟩ : LinearModel α).WrittenIn tokens :=
      ⟨nofun, nofun⟩
    exact written_of_readStatements middle _ model last (opened.trans within) empty readAll
  · rcases map_eq_ok_iff.mp read with ⟨model, -, answered⟩
    cases answered
    trivial
  · rcases map_eq_ok_iff.mp read with ⟨model, -, answered⟩
    cases answered
    trivial
  · cases read

theorem written_of_readItems {tokens : List Token} (cursor : Cursor) :
    ∀ items : List (Item α), cursor.rest <:+ tokens → readItems cursor = .ok items →
      ∀ item ∈ items, item.WrittenIn tokens := by
  induction cursor using Cursor.size_induction with
  | step cursor inductionHypothesis =>
      intro items within read
      rw [readItems_eq] at read
      split at read
      · cases read
        exact nofun
      · rcases bind_eq_ok_iff.mp read with ⟨⟨item, next⟩, readFirst, onward⟩
        rcases bind_eq_ok_iff.mp onward with ⟨others, readOthers, answered⟩
        cases answered
        have behind := cursor.suffix_skipBreaks.trans within
        have reached := (traced_readItem (α := α) cursor.skipBreaks).suffix readFirst
        have shorter : next.size < cursor.size :=
          Nat.lt_of_lt_of_le (size_lt_of_plain readFirst) cursor.size_skipBreaks_le
        exact List.forall_mem_cons.mpr ⟨written_of_readItem behind readFirst,
          inductionHypothesis next shorter others (reached.trans behind) readOthers⟩

/-- The statements of a program are written by tokens of its text.  So their
spans are spans of tokens, and they lie in the text. -/
theorem written_of_parse {source : String} {program : Program α}
    (read : parse source = .ok program) :
    ∀ item ∈ program.items, item.WrittenIn (tokenize source) := by
  rcases map_eq_ok_iff.mp read with ⟨items, readAll, rfl⟩
  exact written_of_readItems ⟨0, tokenize source⟩ items List.suffix_rfl readAll

end Language
end Optimum
