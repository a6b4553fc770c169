/-!
# Numerals

Reading and writing integers. A numeral is one optional sign and at least one digit, with any
number of leading zeros; the reader of a bounded integer refuses a value outside its bounds.

* `digits?_append` — reading goes on from where it stopped.
-/

namespace WidgetStage.Text

/-- The value of a digit, letters counting from ten in either case, if it is below `radix`. -/
def digitValue? (radix : Nat) (c : Char) : Option Nat :=
  let n := c.toNat
  let value :=
    if 48 ≤ n ∧ n ≤ 57 then some (n - 48)
    else if 97 ≤ n ∧ n ≤ 122 then some (n - 87)
    else if 65 ≤ n ∧ n ≤ 90 then some (n - 55)
    else none
  value.filter (· < radix)

/-- The value of a run of digits that continues the digits already worth `acc`. -/
def digits? (radix : Nat) (acc : Nat) : List Char → Option Nat
  | [] => some acc
  | c :: cs =>
    match digitValue? radix c with
    | some d => digits? radix (acc * radix + d) cs
    | none => none

/-- The value of a non-empty run of digits. -/
def numeral? (radix : Nat) : List Char → Option Nat
  | [] => none
  | c :: cs => digits? radix 0 (c :: cs)

/-- A natural number up to `greatest`, with an optional plus sign. -/
def natural? (radix greatest : Nat) : List Char → Option Nat
  | '+' :: cs => (numeral? radix cs).filter (· ≤ greatest)
  | cs => (numeral? radix cs).filter (· ≤ greatest)

/-- A decimal integer from `least` to `greatest`, with an optional sign. -/
def integer? (least greatest : Int) (cs : List Char) : Option Int :=
  let value : Option Int :=
    match cs with
    | '+' :: r => (numeral? 10 r).map Int.ofNat
    | '-' :: r => (numeral? 10 r).map (fun n => -Int.ofNat n)
    | r => (numeral? 10 r).map Int.ofNat
  value.filter (fun n => least ≤ n ∧ n ≤ greatest)

/-- The least 32-bit signed integer. -/
def int32Min : Int := -2147483648

/-- The greatest 32-bit signed integer. -/
def int32Max : Int := 2147483647

/-- A 32-bit signed integer in decimal. -/
def int32? (cs : List Char) : Option Int :=
  integer? int32Min int32Max cs

/-- Whether a text is a non-empty run of decimal digits. -/
def isDigits (cs : List Char) : Bool :=
  !cs.isEmpty && cs.all Char.isDigit

/-- Drops a sign at the front. -/
def dropSign : List Char → List Char
  | '+' :: cs => cs
  | '-' :: cs => cs
  | cs => cs

/-- Whether a text is a decimal without a sign: digits, with a point before, among or after them,
and perhaps an exponent. -/
def isDecimal (cs : List Char) : Bool :=
  let whole := cs.takeWhile Char.isDigit
  let (part, rest) :=
    match cs.dropWhile Char.isDigit with
    | '.' :: cs => (cs.takeWhile Char.isDigit, cs.dropWhile Char.isDigit)
    | cs => ([], cs)
  let exponent :=
    match rest with
    | [] => true
    | c :: cs => (c == 'e' || c == 'E') && isDigits (dropSign cs)
  isDigits (whole ++ part) && exponent

/-- Whether a text is a number: a decimal, an infinity or what is not a number, with an optional
sign. -/
def isNumber (cs : List Char) : Bool :=
  let body := dropSign cs
  isDecimal body ||
    ["inf", "infinity", "nan"].contains (String.ofList (body.map Char.toLower))

/-- The digits of `n` in base sixteen, in lower case. -/
def hex (n : Nat) : String :=
  String.ofList (Nat.toDigits 16 n)

/-- Writes zeros before `s` up to `width` characters. -/
def padZeros (width : Nat) (s : String) : String :=
  String.ofList (List.replicate (width - s.length) '0') ++ s

/-- An eight-digit word in base sixteen, marked as such. -/
def hexWord (n : Nat) : String :=
  "0x" ++ padZeros 8 (hex n)

/-- Reading goes on from where it stopped. -/
theorem digits?_append (radix acc : Nat) (xs ys : List Char) :
    digits? radix acc (xs ++ ys) = (digits? radix acc xs).bind (digits? radix · ys) := by
  induction xs generalizing acc with
  | nil => rfl
  | cons c cs ih =>
    simp only [List.cons_append, digits?]
    cases digitValue? radix c with
    | none => rfl
    | some d => exact ih _

end WidgetStage.Text
