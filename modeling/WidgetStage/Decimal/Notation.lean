import WidgetStage.Decimal.Shortest

/-!
# Writing doubles

A double is written with its shortest digits. Everything else about its text is a decision of
the output that shows it, and `Notation` lists these decisions.

* `Notation.write` — the text of a double.
-/

namespace WidgetStage.Decimal

/-- The decisions that fix the text of a double, once its digits are known. -/
structure Notation where
  /-- Whether a number whose first digit stands `k` places before the point, counted from one
  and not positive for small numbers, is written without an exponent. -/
  positional : Int → Bool
  /-- Whether a whole number in positional form ends in a point and a zero. -/
  pointZero : Bool
  /-- Whether an exponent that is not negative has a plus sign. -/
  plusSign : Bool
  /-- The choice between two equally near digit strings. -/
  tie : Tie
  /-- The text of what is not a number. -/
  notANumber : String
  /-- The text of positive infinity. -/
  infinity : String
  /-- The text of negative infinity. -/
  negativeInfinity : String

namespace Notation

/-- Digits in positional form. The value is the digits with the point after the first `point`
of them. -/
def layoutPositional (pointZero : Bool) (digits : String) (point : Int) : String :=
  let n : Int := digits.length
  if point ≤ 0 then
    "0." ++ String.ofList (List.replicate (-point).toNat '0') ++ digits
  else if point < n then
    let cs := digits.toList
    String.ofList (cs.take point.toNat) ++ "." ++ String.ofList (cs.drop point.toNat)
  else
    digits ++ String.ofList (List.replicate (point - n).toNat '0') ++
      (if pointZero then ".0" else "")

/-- Digits with one of them before the point and an exponent. -/
def layoutExponent (plusSign : Bool) (digits : String) (point : Int) : String :=
  let mantissa :=
    match digits.toList with
    | [] => ""
    | [d] => String.singleton d
    | d :: ds => String.singleton d ++ "." ++ String.ofList ds
  mantissa ++ "e" ++ (if plusSign && 1 ≤ point then "+" else "") ++ toString (point - 1)

/-- The text of a positive value. -/
def writePositive (f : Notation) (b : Binary) : String :=
  let (digits, place) := b.shortest f.tie
  let text := toString digits
  let point : Int := text.length + place
  if f.positional point then layoutPositional f.pointZero text point
  else layoutExponent f.plusSign text point

/-- The text of a double. -/
def write (f : Notation) (x : Float) : String :=
  let sign (negative : Bool) : String := if negative then "-" else ""
  match Decoded.ofBits x.toBits with
  | .notANumber => f.notANumber
  | .infinite negative => if negative then f.negativeInfinity else f.infinity
  | .zero negative => sign negative ++ (if f.pointZero then "0.0" else "0")
  | .finite negative b => sign negative ++ f.writePositive b

end Notation

end WidgetStage.Decimal
