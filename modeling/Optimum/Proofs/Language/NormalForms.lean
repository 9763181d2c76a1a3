import Optimum.Proofs.Decimal.Doubles
import Optimum.Proofs.Language.Lexing
import Optimum.Proofs.Language.Written

namespace Optimum
namespace Language

open Checks

/-!
# The trees that are read

A tree is normal if its shape needs no parentheses beyond those that it holds,
and its numbers and names are such as literals and identifiers denote.  Every
expression that is read from a text is normal, unless one of its literals is
too large for a double (`normal_of_readSum`, `normal_of_parse`).
-/

/-! ## Normal trees -/

/-- A finite double without a sign.  A literal has no sign, so these are the
numbers that a tree can be written with. -/
def IsMagnitude (value : Float) : Prop :=
  ∃ significand exponent, Decimal.Parts.of value = .finite false significand exponent

/-- An identifier: a character that begins one, characters that continue it,
and no keyword. -/
def IsName (name : String) : Prop :=
  ∃ first others, name.toList = first :: others ∧ Alphabet.unicode.startsName first = true ∧
    (∀ c ∈ others, Alphabet.unicode.continuesName c = true) ∧
    nameKind (first :: others) = .identifier

namespace Expression

variable {α : Type}

/-- Whether two operands are joined. -/
def isBinary : Expression α → Bool
  | .binary _ _ _ => true
  | _ => false

/-- Whether two operands are added or subtracted. -/
def isAdditive : Expression α → Bool
  | .binary _ .add _ => true
  | .binary _ .subtract _ => true
  | _ => false

/-- Whether an operator can stand between two operands without parentheses.
Operators of one level lean to the left, so the right operand must bind
closer. -/
def Joinable (left : Expression α) : Operator → Expression α → Prop
  | .add, right => right.isAdditive = false
  | .subtract, right => right.isAdditive = false
  | .multiply, right => left.isAdditive = false ∧ right.isBinary = false
  | .divide, right => left.isAdditive = false ∧ right.isBinary = false

/-- Trees that can be shown without adding parentheses.  The text of any other
tree would be read as another tree, or not at all. -/
def Normal : Expression Float → Prop
  | .number value => IsMagnitude value
  | .variable name _ => IsName name
  | .negate inner => inner.Normal ∧ inner.isBinary = false
  | .binary left operator right => left.Normal ∧ right.Normal ∧ left.Joinable operator right
  | .parenthesized inner => inner.Normal

theorem isAdditive_of_not_binary {tree : Expression α} (operand : tree.isBinary = false) :
    tree.isAdditive = false := by
  cases tree with
  | binary left operator right => cases operand
  | _ => rfl

end Expression

/-! ## Sound tokens -/

/-- A token whose text a normal tree may hold: a literal within range, or a name
that is no keyword. -/
structure Token.Sound (token : Token) : Prop where
  name : token.kind = .identifier → IsName token.text
  number : token.kind = .number →
    ∀ value : Float, NumberText.read? token.text = some value → IsMagnitude value

/-- A token is an identifier only if it is made of the characters of names. -/
theorem munch_identifier {alphabet : Alphabet} {c : Char} {rest : List Char}
    (named : (munch alphabet c rest).1 = .identifier) :
    alphabet.startsName c = true ∧
      (munch alphabet c rest).2 = reach alphabet.continuesName rest ∧
      nameKind (c :: rest.takeWhile alphabet.continuesName) = .identifier := by
  revert named
  unfold munch
  split <;> (try split_ifs) <;> intro named <;> try cases named
  next begins =>
    rw [← takeWhile_of_reach]
    exact ⟨begins, rfl, named⟩

theorem isName_of_identifier {position : Nat} {chars : List Char} {token : Token}
    (member : token ∈ tokensFrom .unicode position chars) (named : token.kind = .identifier) :
    IsName token.text := by
  have ordinary : token.kind ≠ .endOfFile := by simp [named]
  rcases munched_of_mem member ordinary with ⟨-, c, rest, -, -, kind, text⟩
  rcases munch_identifier (kind.symm.trans named) with ⟨begins, length, free⟩
  refine ⟨c, rest.takeWhile Alphabet.unicode.continuesName, ?_, begins, ?_, free⟩
  · rw [text, length, takeWhile_of_reach]
  · exact fun c member => List.all_eq_true.mp List.all_takeWhile c member

/-- No literal of a text is too large for a double.  Such a literal is read as
the infinity, which has no literal of its own. -/
def WithinRange (source : String) : Prop :=
  ∀ token ∈ tokenize source, token.kind = .number →
    ∀ value ∈ (NumberText.read? token.text : Option Float), Decimal.Parts.of value ≠ .infinite false

instance (source : String) : Decidable (WithinRange source) :=
  inferInstanceAs (Decidable (∀ token ∈ tokenize source, _))

theorem WithinRange.sound {source : String} (inRange : WithinRange source) :
    ∀ token ∈ tokenize source, token.Sound := fun token member =>
  { name := isName_of_identifier member
    number := fun literal value denotes =>
      (Decimal.parts_of_read? denotes).resolve_left (inRange token member literal value denotes) }

/-! ## What is read is normal -/

/-- A form whose trees are normal and of a certain shape. -/
def DerivesNormal (shape : Expression Float → Prop) (tokens : List Token)
    (tree : Expression Float) : Prop :=
  (∀ token ∈ tokens, token.Sound) → tree.Normal ∧ shape tree

theorem derivesNormal_of_isSum {tokens : List Token} {tree : Expression Float}
    (derived : IsSum tokens tree) : DerivesNormal (fun _ => True) tokens tree := by
  refine @derivation_induction Float _ (DerivesNormal fun _ => True)
    (DerivesNormal fun tree => tree.isAdditive = false)
    (DerivesNormal fun tree => tree.isBinary = false)
    (DerivesNormal fun tree => tree.isBinary = false) ?onlyProduct ?term ?onlyUnary ?factor
    ?juxtaposed ?negated ?signed ?onlyPrimary ?number ?name ?parenthesized _ _ derived
  case onlyProduct => exact fun _ normal sound => ⟨(normal sound).1, trivial⟩
  case term =>
    intro tokens breaks others sign left operator right signed _ normalLeft _ _ normalRight sound
    simp only [List.forall_mem_append, List.forall_mem_cons] at sound
    rcases sound with ⟨soundLeft, -, -, soundRight⟩
    have right := normalRight soundRight
    refine ⟨⟨(normalLeft soundLeft).1, right.1, ?_⟩, trivial⟩
    cases kind : sign.kind <;> rw [kind] at signed <;> cases signed <;> exact right.2
  case onlyUnary =>
    exact fun _ normal sound =>
      ⟨(normal sound).1, Expression.isAdditive_of_not_binary (normal sound).2⟩
  case factor =>
    intro tokens breaks others mark left operator right marked _ normalLeft _ _ normalRight sound
    simp only [List.forall_mem_append, List.forall_mem_cons] at sound
    rcases sound with ⟨soundLeft, -, -, soundRight⟩
    have left := normalLeft soundLeft
    have right := normalRight soundRight
    cases kind : mark.kind <;> rw [kind] at marked <;> cases marked <;>
      exact ⟨⟨left.1, right.1, left.2, right.2⟩, rfl⟩
  case juxtaposed =>
    intro tokens others left right _ normalLeft _ normalRight sound
    rcases List.forall_mem_append.mp sound with ⟨soundLeft, soundRight⟩
    have left := normalLeft soundLeft
    have right := normalRight soundRight
    exact ⟨⟨left.1, right.1, left.2, right.2⟩, rfl⟩
  case negated =>
    intro sign tokens tree _ _ normal sound
    exact ⟨normal (List.forall_mem_cons.mp sound).2, rfl⟩
  case signed =>
    intro sign tokens tree _ _ normal sound
    exact normal (List.forall_mem_cons.mp sound).2
  case onlyPrimary => exact fun _ normal => normal
  case number =>
    intro token value literal denotes sound
    exact ⟨(sound token List.mem_cons_self).number literal value denotes, rfl⟩
  case name =>
    intro token named sound
    exact ⟨(sound token List.mem_cons_self).name named, rfl⟩
  case parenthesized =>
    intro opening closing breaks tokens others tree _ _ _ normal _ _ sound
    simp only [List.forall_mem_append, List.forall_mem_cons] at sound
    exact ⟨(normal sound.2.2.1).1, rfl⟩

/-- What is read as an expression from sound tokens is normal.  Precedence is
decided by the reader, so no operand has to be put in parentheses. -/
theorem normal_of_readSum {cursor next : Cursor} {tree : Expression Float}
    (sound : ∀ token ∈ cursor.rest, token.Sound)
    (read : plain (readSum cursor) = .ok (tree, next)) :
    tree.Normal ∧ next.rest <:+ cursor.rest := by
  rcases isSum_of_readSum cursor tree next read with ⟨-, tokens, ⟨used, shown, rfl⟩, derived⟩
  refine ⟨(derivesNormal_of_isSum derived fun token member => sound token ?_).1, ?_⟩
  · rw [shown]
    exact List.mem_append_left _ (List.mem_of_mem_filter member)
  · exact shown ▸ List.suffix_append used next.rest

/-! ## Programs -/

theorem sound_of_suffix {tokens others : List Token} (sound : ∀ token ∈ tokens, token.Sound)
    (suffix : others <:+ tokens) : ∀ token ∈ others, token.Sound :=
  fun token member => sound token (suffix.subset member)

theorem sound_of_together {tokens own : List Token} (sound : ∀ token ∈ tokens, token.Sound)
    (together : own <:+: tokens) : ∀ token ∈ withoutComments own, token.Sound :=
  fun token member => sound token (together.subset (List.mem_of_mem_filter member))

theorem IsObjective.normal {tokens : List Token} {objective : Objective Float}
    (derived : IsObjective tokens objective) (sound : ∀ token ∈ tokens, token.Sound) :
    objective.expression.Normal := by
  cases derived with
  | intro _ body =>
      exact (derivesNormal_of_isSum body (List.forall_mem_cons.mp sound).2).1

theorem IsDeclaration.normal {tokens : List Token} {declaration : Declaration Float}
    (derived : IsDeclaration tokens declaration) (sound : ∀ token ∈ tokens, token.Sound) :
    declaration.left.Normal ∧ declaration.right.Normal := by
  cases derived with
  | intro _ before _ after =>
      simp only [List.forall_mem_append, List.forall_mem_cons] at sound
      rcases sound with ⟨-, soundLeft, -, soundRight⟩
      exact ⟨(derivesNormal_of_isSum before soundLeft).1,
        (derivesNormal_of_isSum after soundRight).1⟩

/-- All expressions of a linear model are normal. -/
def LinearModel.Normal (model : LinearModel Float) : Prop :=
  (∀ objective ∈ model.objective, objective.expression.Normal) ∧
    ∀ declaration ∈ model.constraints, declaration.left.Normal ∧ declaration.right.Normal

theorem LinearModel.WrittenIn.normal {tokens : List Token} {model : LinearModel Float}
    (written : model.WrittenIn tokens) (sound : ∀ token ∈ tokens, token.Sound) : model.Normal := by
  constructor
  · intro objective given
    rcases written.objective objective given with ⟨own, together, derived, -⟩
    exact derived.normal (sound_of_together sound together)
  · intro declaration given
    rcases written.constraints declaration given with ⟨own, together, derived, -⟩
    exact derived.normal (sound_of_together sound together)

/-- The expressions of a program are normal, if no literal of its text is too
large for a double. -/
theorem normal_of_parse {source : String} (inRange : WithinRange source) {program : Program Float}
    (read : parse source = .ok program) :
    ∀ item ∈ program.items, ∀ tree ∈ item.expressions, tree.Normal := by
  intro item member tree inside
  have written := written_of_parse read item member
  cases item with
  | lp model =>
      rcases LinearModel.WrittenIn.normal written inRange.sound with ⟨objective, constraints⟩
      simp only [Item.expressions, List.mem_append, Option.mem_toList, Option.map_eq_some_iff,
        List.mem_flatMap, List.mem_cons, List.not_mem_nil, or_false] at inside
      rcases inside with ⟨only, given, rfl⟩ | ⟨declaration, given, rfl | rfl⟩
      · exact objective only given
      · exact (constraints declaration given).1
      · exact (constraints declaration given).2
  | assignment model => cases inside
  | transport model => cases inside

end Language
end Optimum
