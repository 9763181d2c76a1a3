import Optimum.Decimal.Reader
import Optimum.Decimal.Style

namespace Optimum

/-!
# Numbers as text

Model texts hold decimal literals, and answers and messages show numbers.  The
language front end and the messages need nothing of their numbers but these
three functions, so they are stated for any type that has them.
-/

/-- Reading and writing numbers.  `read?` takes the text of a literal, `write`
shows a number in full and `brief` shows it to a few decimal places. -/
class NumberText (α : Type) where
  read? : String → Option α
  write : α → String
  brief : α → String

instance : NumberText Float where
  read? := Decimal.read?
  write := Decimal.plain.write
  brief := Decimal.brief

end Optimum
