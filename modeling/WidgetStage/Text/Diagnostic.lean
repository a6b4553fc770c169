import WidgetStage.Decimal.Notation
import WidgetStage.Duration
import WidgetStage.Text.Quoted

/-!
# Diagnostic text

Diagnostics show a value on one line: a record by its name and its fields, a list between
brackets, a table between braces. The functions here put the texts of parts together to the text
of a whole.

* `Diagnostic.list` — items between brackets.
-/

namespace WidgetStage.Text.Diagnostic

/-- A truth value. -/
def truth (b : Bool) : String :=
  if b then "true" else "false"

/-- A name applied to the texts of its arguments; a tuple has an empty name. -/
def application (name : String) (arguments : List String) : String :=
  name ++ "(" ++ ", ".intercalate arguments ++ ")"

/-- A value that may be missing. -/
def optional {α : Type} (text : α → String) : Option α → String
  | none => "None"
  | some v => application "Some" [text v]

/-- The fields of a record between commas. -/
def fields (fs : List (String × String)) : String :=
  ", ".intercalate (fs.map fun f => f.1 ++ ": " ++ f.2)

/-- A record that is shown with all its fields. -/
def record (name : String) (fs : List (String × String)) : String :=
  name ++ " \x7b " ++ fields fs ++ " \x7d"

/-- A record of which some fields are not shown. -/
def partialRecord (name : String) (fs : List (String × String)) : String :=
  name ++ " \x7b " ++ fields fs ++ ", .. \x7d"

/-- The items of a list. -/
def list (items : List String) : String :=
  "[" ++ ", ".intercalate items ++ "]"

/-- The entries of a table. -/
def table (entries : List (String × String)) : String :=
  "\x7b" ++ fields entries ++ "\x7d"

/-- Diagnostics write doubles with a fraction, and with an exponent if they are very small or
very large. Of two digit strings that are equally near, the greater is written. -/
def floatNotation : Decimal.Notation where
  positional k := -3 ≤ k && k ≤ 16
  pointZero := true
  plusSign := false
  tie := .up
  notANumber := "NaN"
  infinity := "inf"
  negativeInfinity := "-inf"

/-- A whole number and a number of `places`-digit parts, without zeros at the end. -/
def decimal (whole part places : Nat) : String :=
  let digits := (padZeros places (toString part)).toList.reverse.dropWhile (· == '0')
  if part = 0 then toString whole else toString whole ++ "." ++ String.ofList digits.reverse

/-- A duration in the largest unit of which it has at least one. -/
def duration (d : Duration) : String :=
  let n := d.nanos
  if Duration.nanosPerSecond ≤ n then decimal d.seconds d.subsecNanos 9 ++ "s"
  else if 1000000 ≤ n then decimal (n / 1000000) (n % 1000000) 6 ++ "ms"
  else if 1000 ≤ n then decimal (n / 1000) (n % 1000) 3 ++ "µs"
  else toString n ++ "ns"

end WidgetStage.Text.Diagnostic
