import WidgetStage.Decimal.Reading
import WidgetStage.Text.Numeral

/-!
# JSON documents

The values of a JSON document, and a reader for them. Numbers keep their spelling, as it is the
use of a number that decides whether it has to be whole. A text may hold half of a surrogate
pair; it is then no text, but the document that holds it can still be read.

* `Json.parse` — the value that a whole text spells.
* `JsonNumber.toWord?`, `JsonNumber.toFloat?` — the readings of a number.
-/

namespace WidgetStage

/-- A number as it is spelled. The digits are those before the point, after it, and of the
exponent. -/
structure JsonNumber where
  negative : Bool
  whole : List Nat
  fraction : Option (List Nat)
  /-- Whether the exponent is negative, and its digits. -/
  exponent : Option (Bool × List Nat)
  deriving DecidableEq, Repr

/-- A JSON value. -/
inductive Json where
  | null
  | boolean (b : Bool)
  | number (n : JsonNumber)
  /-- A text, or what is spelled like one but holds half of a surrogate pair. -/
  | text (s : Option String)
  | array (items : List Json)
  | object (members : List (Option String × Json))

namespace JsonNumber

/-- The value of a list of digits. -/
def digitsValue (ds : List Nat) : Nat :=
  ds.foldl (fun acc d => acc * 10 + d) 0

/-- The number as a whole number of 64 bits. A fraction, an exponent and a minus sign are
refused. -/
def toWord? (n : JsonNumber) : Option Nat :=
  match n.negative, n.fraction, n.exponent with
  | false, none, none => some (digitsValue n.whole) |>.filter (· ≤ Decimal.wholeMax)
  | _, _, _ => none

/-- The absolute value as a double. Digits beyond the 64-bit range are dropped. -/
def magnitude? (n : JsonNumber) : Option Float :=
  let (whole, dropped) := Decimal.absorb n.whole 0
  let digits := n.fraction.getD []
  let (whole, rest) := Decimal.absorb digits whole
  let place : Int := Int.ofNat dropped.length - Int.ofNat (digits.length - rest.length)
  match n.exponent with
  | none => Decimal.scaled 8 whole.toUInt64.toFloat place
  | some (negative, ds) =>
    let e := digitsValue ds
    if e > 2147483647 then
      if whole ≠ 0 && !negative then none else some 0
    else
      let place := if negative then place - Int.ofNat e else place + Int.ofNat e
      Decimal.scaled 8 whole.toUInt64.toFloat place

/-- The number as a double; there is none beyond the greatest double. -/
def toFloat? (n : JsonNumber) : Option Float :=
  n.magnitude?.map fun x => if n.negative then -x else x

end JsonNumber

namespace Json

/-- The white space of JSON. -/
def isSpace (c : Char) : Bool :=
  c == ' ' || c == '\n' || c == '\t' || c == '\r'

/-- Drops white space. -/
def skipSpace (cs : List Char) : List Char :=
  cs.dropWhile isSpace

/-- The decimal digits at the front, and what follows them. -/
def takeDigits : List Char → List Nat × List Char
  | [] => ([], [])
  | c :: cs =>
    match Text.digitValue? 10 c with
    | some d =>
      let (ds, rest) := takeDigits cs
      (d :: ds, rest)
    | none => ([], c :: cs)

/-! ### Numbers -/

/-- The digits after a point, if there is a point. -/
def fraction? : List Char → Option (Option (List Nat) × List Char)
  | '.' :: cs =>
    match takeDigits cs with
    | ([], _) => none
    | (ds, rest) => some (some ds, rest)
  | cs => some (none, cs)

/-- A sign and digits. -/
def signedDigits? (cs : List Char) : Option ((Bool × List Nat) × List Char) :=
  let (negative, cs) :=
    match cs with
    | '+' :: r => (false, r)
    | '-' :: r => (true, r)
    | r => (false, r)
  match takeDigits cs with
  | ([], _) => none
  | (ds, rest) => some ((negative, ds), rest)

/-- The exponent, if there is one. -/
def exponent? : List Char → Option (Option (Bool × List Nat) × List Char)
  | 'e' :: cs => (signedDigits? cs).map fun (e, rest) => (some e, rest)
  | 'E' :: cs => (signedDigits? cs).map fun (e, rest) => (some e, rest)
  | cs => some (none, cs)

/-- A number. Its first digit is a zero only if it has no other digit before the point. -/
def number? (cs : List Char) : Option (JsonNumber × List Char) :=
  let (negative, cs) :=
    match cs with
    | '-' :: r => (true, r)
    | r => (false, r)
  match takeDigits cs with
  | ([], _) => none
  | (0 :: _ :: _, _) => none
  | (whole, cs) =>
    match fraction? cs with
    | none => none
    | some (fraction, cs) =>
      match exponent? cs with
      | none => none
      | some (exponent, rest) => some (⟨negative, whole, fraction, exponent⟩, rest)

/-! ### Texts -/

/-- A piece of a text: a character, or a 16-bit unit that was written by its number. -/
inductive Piece where
  | char (c : Char)
  | unit (n : Nat)

/-- The value of four digits in base sixteen. -/
def fourHex? : List Char → Option (Nat × List Char)
  | a :: b :: c :: d :: rest => (Text.numeral? 16 [a, b, c, d]).map fun n => (n, rest)
  | _ => none

/-- The character that a short escape stands for. -/
def shortEscape? : Char → Option Char
  | '"' => some '"'
  | '\\' => some '\\'
  | '/' => some '/'
  | 'b' => some '\x08'
  | 'f' => some '\x0c'
  | 'n' => some '\n'
  | 'r' => some '\r'
  | 't' => some '\t'
  | _ => none

/-- The pieces of a text up to its closing quote. The first argument bounds the number of
pieces. -/
def pieces? : Nat → List Char → Option (List Piece × List Char)
  | 0, _ => none
  | _ + 1, [] => none
  | _ + 1, '"' :: rest => some ([], rest)
  | fuel + 1, '\\' :: 'u' :: cs =>
    match fourHex? cs with
    | none => none
    | some (n, cs) => (pieces? fuel cs).map fun (ps, rest) => (.unit n :: ps, rest)
  | fuel + 1, '\\' :: c :: cs =>
    match shortEscape? c with
    | none => none
    | some c => (pieces? fuel cs).map fun (ps, rest) => (.char c :: ps, rest)
  | fuel + 1, c :: cs =>
    if c.toNat < 0x20 || c == '\\' then none
    else (pieces? fuel cs).map fun (ps, rest) => (.char c :: ps, rest)

/-- Joins surrogate pairs. Half of a pair stands for no character. -/
def joinUnits? : List Piece → Option (List Char)
  | [] => some []
  | .char c :: ps => (joinUnits? ps).map (c :: ·)
  | .unit n :: ps =>
    if n < 0xD800 ∨ 0xDFFF < n then (joinUnits? ps).map (Char.ofNat n :: ·)
    else if 0xDC00 ≤ n then none
    else
      match ps with
      | .unit m :: ps =>
        if 0xDC00 ≤ m ∧ m ≤ 0xDFFF then
          (joinUnits? ps).map (Char.ofNat (0x10000 + (n - 0xD800) * 0x400 + (m - 0xDC00)) :: ·)
        else
          none
      | _ => none

/-- A text after its opening quote. -/
def text? (cs : List Char) : Option (Option String × List Char) :=
  (pieces? (cs.length + 1) cs).map fun (ps, rest) => ((joinUnits? ps).map String.ofList, rest)

/-! ### Values -/

/-- What follows a word, if the characters begin with it. -/
def word? : List Char → List Char → Option (List Char)
  | [], cs => some cs
  | _ :: _, [] => none
  | w :: ws, c :: cs => if w = c then word? ws cs else none

mutual

/-- A value. The first argument bounds the number of steps; every step consumes a character or
is followed by one that does. -/
def value? : Nat → List Char → Option (Json × List Char)
  | 0, _ => none
  | fuel + 1, cs =>
    match skipSpace cs with
    | [] => none
    | 'n' :: r => (word? "ull".toList r).map fun rest => (.null, rest)
    | 't' :: r => (word? "rue".toList r).map fun rest => (.boolean true, rest)
    | 'f' :: r => (word? "alse".toList r).map fun rest => (.boolean false, rest)
    | '"' :: r => (text? r).map fun (s, rest) => (.text s, rest)
    | '[' :: r =>
      match skipSpace r with
      | ']' :: rest => some (.array [], rest)
      | r => (items? fuel r).map fun (items, rest) => (.array items, rest)
    | '{' :: r =>
      match skipSpace r with
      | '}' :: rest => some (.object [], rest)
      | r => (members? fuel r).map fun (members, rest) => (.object members, rest)
    | r => (number? r).map fun (n, rest) => (.number n, rest)

/-- The items of an array up to its end; there is at least one. -/
def items? : Nat → List Char → Option (List Json × List Char)
  | 0, _ => none
  | fuel + 1, cs =>
    match value? fuel cs with
    | none => none
    | some (item, cs) =>
      match skipSpace cs with
      | ']' :: rest => some ([item], rest)
      | ',' :: r => (items? fuel r).map fun (items, rest) => (item :: items, rest)
      | _ => none

/-- The members of an object up to its end; there is at least one. -/
def members? : Nat → List Char → Option (List (Option String × Json) × List Char)
  | 0, _ => none
  | fuel + 1, cs =>
    match skipSpace cs with
    | '"' :: r =>
      match text? r with
      | none => none
      | some (key, r) =>
        match skipSpace r with
        | ':' :: r =>
          match value? fuel r with
          | none => none
          | some (item, r) =>
            match skipSpace r with
            | '}' :: rest => some ([(key, item)], rest)
            | ',' :: r =>
              (members? fuel r).map fun (members, rest) => ((key, item) :: members, rest)
            | _ => none
        | _ => none
    | _ => none

end

/-- The value that a whole text spells. -/
def parse (s : String) : Option Json :=
  let cs := s.toList
  match value? (2 * cs.length + 2) cs with
  | some (v, rest) => if skipSpace rest = [] then some v else none
  | none => none

/-! ### Writing -/

/-- One character inside a written text. -/
def writeChar (c : Char) : String :=
  match c with
  | '"' => "\\\""
  | '\\' => "\\\\"
  | '\x08' => "\\b"
  | '\x0c' => "\\f"
  | '\n' => "\\n"
  | '\r' => "\\r"
  | '\t' => "\\t"
  | c => if c.toNat < 0x20 then "\\u" ++ Text.padZeros 4 (Text.hex c.toNat) else String.singleton c

/-- A written text. -/
def writeText (s : String) : String :=
  "\"" ++ String.join (s.toList.map writeChar) ++ "\""

/-- A word is taken exactly from the front. -/
theorem word?_append (w cs : List Char) : word? w (w ++ cs) = some cs := by
  induction w with
  | nil => rfl
  | cons c w ih => simpa [word?] using ih

end Json

end WidgetStage
