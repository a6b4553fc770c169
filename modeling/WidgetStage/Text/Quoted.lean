import WidgetStage.Text.Numeral
import WidgetStage.Text.Shown

/-!
# Quoted text

`quote` writes a text between double quotes so that it stays on one line: the quote, the
backslash and four controls have short escapes, and every other character that would not be
seen is written by its code point.

* `quoteChar` — what stands for a character.
-/

namespace WidgetStage.Text

/-- One character inside a quoted text. -/
def quoteChar (c : Char) : String :=
  match c with
  | '"' => "\\\""
  | '\\' => "\\\\"
  | '\n' => "\\n"
  | '\r' => "\\r"
  | '\t' => "\\t"
  | '\x00' => "\\0"
  | c => if isShown c then String.singleton c else "\\u\x7b" ++ hex c.toNat ++ "\x7d"

/-- The text between double quotes, on one line. -/
def quote (s : String) : String :=
  "\"" ++ String.join (s.toList.map quoteChar) ++ "\""

end WidgetStage.Text
