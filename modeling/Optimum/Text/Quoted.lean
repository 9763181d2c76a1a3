import Optimum.Text.Plain

namespace Optimum
namespace Text

/-!
# Quoted text

Two quoted forms.  `quote` makes every character visible and writes the ones
that are not plain by their code point.  `quoteJson` escapes only what a JSON
string cannot hold.
-/

/-- The lower-case hexadecimal digits of a number. -/
def hex (n : Nat) : String :=
  String.ofList (Nat.toDigits 16 n)

/-- A character of quoted text.  The marks that end or escape a quotation are
written with a backslash even though they are visible. -/
def escape (c : Char) : String :=
  match c with
  | '\x00' => "\\0"
  | '\t' => "\\t"
  | '\r' => "\\r"
  | '\n' => "\\n"
  | '"' => "\\\""
  | '\\' => "\\\\"
  | _ => if isPlain c then c.toString else "\\u\x7b" ++ hex c.toNat ++ "\x7d"

/-- Text between quotes, every character visible, as errors show the words that
they are about. -/
def quote (text : String) : String :=
  "\"" ++ String.join (text.toList.map escape) ++ "\""

/-- A character of a JSON string. -/
def escapeJson (c : Char) : String :=
  match c with
  | '"' => "\\\""
  | '\\' => "\\\\"
  | '\x08' => "\\b"
  | '\x0c' => "\\f"
  | '\n' => "\\n"
  | '\r' => "\\r"
  | '\t' => "\\t"
  | _ =>
    if c.toNat < 0x10 then "\\u000" ++ hex c.toNat
    else if c.toNat < 0x20 then "\\u00" ++ hex c.toNat
    else c.toString

/-- Text as a JSON string.  Characters beyond ASCII stay as they are. -/
def quoteJson (text : String) : String :=
  "\"" ++ String.join (text.toList.map escapeJson) ++ "\""

end Text
end Optimum
