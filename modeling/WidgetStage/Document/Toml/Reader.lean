import WidgetStage.Decimal.Reading
import WidgetStage.Document.Toml.Tree
import WidgetStage.Text.Blank
import WidgetStage.Text.Numeral

/-!
# Reading TOML documents

A document is read line by line: blank lines and comments, headers, and assignments. Strings may
span lines, and so may arrays; every other value is a single token, which is classified as a
whole.

* `Toml.scalar?` — the value of a single token.
* `Toml.value?` — a value of any kind.
* `Toml.parse` — the table that a whole text spells.
-/

namespace WidgetStage.Toml

/-! ### Characters -/

/-- The white space inside a line. -/
def isSpace (c : Char) : Bool :=
  c == ' ' || c == '\t'

/-- Drops white space inside a line. -/
def skipSpace (cs : List Char) : List Char :=
  cs.dropWhile isSpace

/-- Whether a comment may hold the character: no control but the tab. -/
def isCommentChar (c : Char) : Bool :=
  c == '\t' || (0x20 ≤ c.toNat && c.toNat ≠ 0x7F)

/-- What follows a line end, if there is one. -/
def lineEnd? : List Char → Option (List Char)
  | '\n' :: cs => some cs
  | '\r' :: '\n' :: cs => some cs
  | _ => none

/-- Drops a comment. -/
def skipComment : List Char → List Char
  | '#' :: cs => cs.dropWhile isCommentChar
  | cs => cs

/-- The rest of a line without content: white space, a comment, and the end of the line or of
the document. -/
def restOfLine? (cs : List Char) : Option (List Char) :=
  match skipComment (skipSpace cs) with
  | [] => some []
  | cs => lineEnd? cs

/-- Drops white space, comments and line ends. The first argument bounds the number of lines. -/
def skipLines : Nat → List Char → List Char
  | 0, cs => cs
  | fuel + 1, cs =>
    let cs := skipComment (skipSpace cs)
    match lineEnd? cs with
    | some cs => skipLines fuel cs
    | none => cs

/-- Drops everything up to the next visible character of a document. -/
def skipBlank (cs : List Char) : List Char :=
  skipLines (cs.length + 1) cs

/-! ### Strings -/

/-- The character that a short escape stands for. -/
def shortEscape? : Char → Option Char
  | 'b' => some '\x08'
  | 't' => some '\t'
  | 'n' => some '\n'
  | 'f' => some '\x0c'
  | 'r' => some '\r'
  | '"' => some '"'
  | '\\' => some '\\'
  | _ => none

/-- The character whose code point is written with `count` digits in base sixteen. -/
def codePoint? (count : Nat) (cs : List Char) : Option (Char × List Char) :=
  if cs.length < count then none
  else
    match Text.numeral? 16 (cs.take count) with
    | none => none
    | some n => if n.isValidChar then some (Char.ofNat n, cs.drop count) else none

/-- The character that an escape stands for, without its backslash. -/
def escape? : List Char → Option (Char × List Char)
  | 'u' :: cs => codePoint? 4 cs
  | 'U' :: cs => codePoint? 8 cs
  | c :: cs => (shortEscape? c).map fun c => (c, cs)
  | [] => none

/-- Puts a character in front of what was read. -/
def prepend (c : Char) : List Char × List Char → List Char × List Char
  | (cs, rest) => (c :: cs, rest)

/-- The string up to its closing quote, with escapes. -/
def basic? : Nat → List Char → Option (List Char × List Char)
  | 0, _ => none
  | _ + 1, [] => none
  | _ + 1, '"' :: rest => some ([], rest)
  | fuel + 1, '\\' :: cs =>
    match escape? cs with
    | none => none
    | some (c, cs) => (basic? fuel cs).map (prepend c)
  | fuel + 1, c :: cs => if isCommentChar c then (basic? fuel cs).map (prepend c) else none

/-- The string up to its closing apostrophe, without escapes. -/
def literal? : List Char → Option (List Char × List Char)
  | [] => none
  | '\x27' :: rest => some ([], rest)
  | c :: cs => if isCommentChar c then (literal? cs).map (prepend c) else none

/-- Whether the characters begin with three of `quote`. -/
def opensWith (quote : Char) : List Char → Bool
  | a :: b :: c :: _ => a == quote && b == quote && c == quote
  | _ => false

/-- The quotes of a string that end it: three of them, after up to two that belong to it. -/
def closing (quote : Char) (cs : List Char) : List Char × List Char :=
  let run := min 5 (cs.takeWhile (· == quote)).length
  (List.replicate (run - 3) quote, cs.drop run)

/-- What follows an escaped line end: all white space and line ends are skipped. -/
def skipFolded : Nat → List Char → List Char
  | 0, cs => cs
  | fuel + 1, cs =>
    match lineEnd? (skipSpace cs) with
    | some cs => skipFolded fuel cs
    | none => skipSpace cs

/-- The string up to its three closing quotes, with escapes and line ends. -/
def basicLines? : Nat → List Char → Option (List Char × List Char)
  | 0, _ => none
  | _ + 1, [] => none
  | fuel + 1, '\\' :: cs =>
    match lineEnd? (skipSpace cs) with
    | some cs => basicLines? fuel (skipFolded fuel cs)
    | none =>
      match escape? cs with
      | none => none
      | some (c, cs) => (basicLines? fuel cs).map (prepend c)
  | fuel + 1, c :: cs =>
    if opensWith '"' (c :: cs) then some (closing '"' (c :: cs))
    else
      match lineEnd? (c :: cs) with
      | some cs => (basicLines? fuel cs).map (prepend '\n')
      | none => if isCommentChar c then (basicLines? fuel cs).map (prepend c) else none

/-- The string up to its three closing apostrophes, with line ends. -/
def literalLines? : Nat → List Char → Option (List Char × List Char)
  | 0, _ => none
  | _ + 1, [] => none
  | fuel + 1, c :: cs =>
    if opensWith '\x27' (c :: cs) then some (closing '\x27' (c :: cs))
    else
      match lineEnd? (c :: cs) with
      | some cs => (literalLines? fuel cs).map (prepend '\n')
      | none => if isCommentChar c then (literalLines? fuel cs).map (prepend c) else none

/-- Drops a line end that follows three opening quotes at once. -/
def skipFirstLineEnd (cs : List Char) : List Char :=
  (lineEnd? cs).getD cs

/-- A string of one line. -/
def lineString? : List Char → Option (List Char × List Char)
  | '"' :: cs => basic? (cs.length + 1) cs
  | '\x27' :: cs => literal? cs
  | _ => none

/-- A string of any kind. -/
def string? (cs : List Char) : Option (List Char × List Char) :=
  if opensWith '"' cs then basicLines? (cs.length + 1) (skipFirstLineEnd (cs.drop 3))
  else if opensWith '\x27' cs then literalLines? (cs.length + 1) (skipFirstLineEnd (cs.drop 3))
  else lineString? cs

/-! ### Numbers -/

/-- A sign, if there is one, and what follows it. -/
def sign : List Char → Bool × List Char
  | '-' :: cs => (true, cs)
  | '+' :: cs => (false, cs)
  | cs => (false, cs)

/-- The digits of a number in which single underscores may stand between digits. -/
def digits? (radix : Nat) (cs : List Char) : Option (List Nat) :=
  let parts := Text.cut (· == '_') cs
  if parts.any List.isEmpty then none else parts.flatten.mapM (Text.digitValue? radix)

/-- The value of digits. -/
def digitsValue (radix : Nat) (ds : List Nat) : Nat :=
  ds.foldl (fun acc d => acc * radix + d) 0

/-- Whether digits begin with a zero that says nothing. -/
def hasLeadingZero : List Nat → Bool
  | 0 :: _ :: _ => true
  | _ => false

/-- The greatest integer. -/
def integerMax : Nat := 9223372036854775807

/-- An integer with a mark for its base. -/
def markedInteger? (radix : Nat) (cs : List Char) : Option Toml :=
  match digits? radix cs with
  | none => none
  | some ds =>
    let n := digitsValue radix ds
    if n ≤ integerMax then some (.integer (Int.ofNat n)) else none

/-- An integer. -/
def integer? (token : List Char) : Option Toml :=
  match token with
  | '0' :: 'x' :: cs => markedInteger? 16 cs
  | '0' :: 'o' :: cs => markedInteger? 8 cs
  | '0' :: 'b' :: cs => markedInteger? 2 cs
  | _ =>
    let (negative, cs) := sign token
    match digits? 10 cs with
    | none => none
    | some ds =>
      let n := digitsValue 10 ds
      if hasLeadingZero ds then none
      else if negative then
        if n ≤ integerMax + 1 then some (.integer (-Int.ofNat n)) else none
      else if n ≤ integerMax then some (.integer (Int.ofNat n))
      else none

/-- Whether a character begins an exponent. -/
def isExponentMark (c : Char) : Bool :=
  c == 'e' || c == 'E'

/-- The exponent after its mark. -/
def exponent? (cs : List Char) : Option Int :=
  let (negative, cs) := sign cs
  (digits? 10 cs).map fun ds =>
    let n := Int.ofNat (digitsValue 10 ds)
    if negative then -n else n

/-- A decimal with a fraction, an exponent or both. Its double may be negative infinity but not
the positive one. -/
def decimal? (token : List Char) : Option Toml :=
  let (negative, cs) := sign token
  let mantissa := cs.takeWhile fun c => !isExponentMark c
  let tail := cs.drop mantissa.length
  let whole := mantissa.takeWhile (· ≠ '.')
  let point := mantissa.drop whole.length
  let fraction : Option (List Nat) :=
    match point with
    | [] => if tail.isEmpty then none else some []
    | _ :: cs => digits? 10 cs
  let exponent : Option Int :=
    match tail with
    | [] => some 0
    | _ :: cs => exponent? cs
  match digits? 10 whole, fraction, exponent with
  | some ds, some fs, some e =>
    if hasLeadingZero ds then none
    else
      let x := Decimal.nearest (digitsValue 10 (ds ++ fs)) (e - Int.ofNat fs.length)
      if negative then some (.float (-x)) else if x.isInf then none else some (.float x)
  | _, _, _ => none

/-- Infinity, and what is not a number. -/
def special? (token : List Char) : Option Toml :=
  let (negative, cs) := sign token
  let signed (x : Float) : Toml := .float (if negative then -x else x)
  if cs = "inf".toList then some (signed (1 / 0))
  else if cs = "nan".toList then some (signed (0 / 0))
  else none

/-! ### Dates and times -/

/-- A number of exactly `count` digits between bounds. -/
def fixedDigits? (count least greatest : Nat) (cs : List Char) : Option (Nat × List Char) :=
  if cs.length < count then none
  else
    match (cs.take count).mapM (Text.digitValue? 10) with
    | none => none
    | some ds =>
      let n := digitsValue 10 ds
      if least ≤ n ∧ n ≤ greatest then some (n, cs.drop count) else none

/-- The number of days in a month. -/
def daysIn (year month : Nat) : Nat :=
  if month = 2 then
    if year % 4 = 0 ∧ (year % 100 ≠ 0 ∨ year % 400 = 0) then 29 else 28
  else if month = 4 ∨ month = 6 ∨ month = 9 ∨ month = 11 then 30
  else 31

/-- What follows a date. -/
def date? (cs : List Char) : Option (List Char) :=
  match fixedDigits? 4 0 9999 cs with
  | some (year, '-' :: cs) =>
    match fixedDigits? 2 1 12 cs with
    | some (month, '-' :: cs) => (fixedDigits? 2 1 (daysIn year month) cs).map Prod.snd
    | _ => none
  | _ => none

/-- What follows a fraction of a second, if there is one. -/
def secondFraction? : List Char → Option (List Char)
  | '.' :: cs =>
    let rest := cs.dropWhile Char.isDigit
    if rest.length = cs.length then none else some rest
  | cs => some cs

/-- What follows a time of day. -/
def time? (cs : List Char) : Option (List Char) :=
  match fixedDigits? 2 0 23 cs with
  | some (_, ':' :: cs) =>
    match fixedDigits? 2 0 59 cs with
    | some (_, ':' :: cs) => (fixedDigits? 2 0 60 cs).bind fun (_, cs) => secondFraction? cs
    | _ => none
  | _ => none

/-- Whether the characters are the distance to universal time, or none. -/
def isOffset (cs : List Char) : Bool :=
  let hours (cs : List Char) : Bool :=
    match fixedDigits? 2 0 23 cs with
    | some (_, ':' :: cs) => ((fixedDigits? 2 0 59 cs).map fun r => r.2.isEmpty).getD false
    | _ => false
  match cs with
  | [] => true
  | ['Z'] => true
  | ['z'] => true
  | '+' :: cs => hours cs
  | '-' :: cs => hours cs
  | _ => false

/-- Whether a character stands between a date and a time. -/
def isDateTimeMark (c : Char) : Bool :=
  c == 'T' || c == 't' || c == ' '

/-- Whether a token is a date, a time or both. -/
def isMoment (token : List Char) : Bool :=
  match date? token with
  | some [] => true
  | some (c :: cs) => isDateTimeMark c && ((time? cs).map isOffset).getD false
  | none => ((time? token).map List.isEmpty).getD false

/-! ### Values -/

/-- Whether a character can stand in the token of a value that is neither a string nor a
container. -/
def isTokenChar (c : Char) : Bool :=
  c.isAlphanum || c == '+' || c == '-' || c == '_' || c == '.' || c == ':'

/-- The token at the front, and what follows it. The space between a date and a time belongs to
the token. -/
def takeToken (cs : List Char) : List Char × List Char :=
  let token := cs.takeWhile isTokenChar
  let rest := cs.drop token.length
  match date? token, rest with
  | some [], ' ' :: more =>
    let second := more.takeWhile isTokenChar
    if (time? second).isSome then (token ++ ' ' :: second, more.drop second.length)
    else (token, rest)
  | _, _ => (token, rest)

/-- The value of a single token. -/
def scalar? (token : List Char) : Option Toml :=
  if token = "true".toList then some (.boolean true)
  else if token = "false".toList then some (.boolean false)
  else if isMoment token then some .moment
  else (integer? token).or ((decimal? token).or (special? token))

/-- Whether a key that is not quoted can hold the character. -/
def isKeyChar (c : Char) : Bool :=
  c.isAlphanum || c == '_' || c == '-'

/-- One part of a key. -/
def keyPart? (cs : List Char) : Option (String × List Char) :=
  match cs with
  | '"' :: _ => (lineString? cs).map fun (k, rest) => (String.ofList k, rest)
  | '\x27' :: _ => (lineString? cs).map fun (k, rest) => (String.ofList k, rest)
  | _ =>
    let k := cs.takeWhile isKeyChar
    if k.isEmpty then none else some (String.ofList k, cs.drop k.length)

/-- The parts of a key, and what follows it. -/
def key? : Nat → List Char → Option (List String × List Char)
  | 0, _ => none
  | fuel + 1, cs =>
    match keyPart? (skipSpace cs) with
    | none => none
    | some (k, cs) =>
      match skipSpace cs with
      | '.' :: cs => (key? fuel cs).map fun (ks, rest) => (k :: ks, rest)
      | cs => some ([k], cs)

/-- The greatest depth of values within values, and of tables that a key leads through. -/
def depthMax : Nat := 79

/-- Splits a key into the path to its table and its last part. -/
def splitKey? (ks : List String) : Option (List String × String) :=
  if depthMax < ks.length then none else ks.getLast?.map fun k => (ks.dropLast, k)

/-- The items of an array up to its end, each read by `item`. -/
def items? (item : List Char → Option (Toml × List Char)) :
    Nat → List Char → Option (List Toml × List Char)
  | 0, _ => none
  | fuel + 1, cs =>
    match skipBlank cs with
    | ']' :: rest => some ([], rest)
    | cs =>
      match item cs with
      | none => none
      | some (v, cs) =>
        match skipBlank cs with
        | ',' :: cs => (items? item fuel cs).map fun (vs, rest) => (v :: vs, rest)
        | ']' :: rest => some ([v], rest)
        | _ => none

/-- The assignments of a table that is written as a value, each value read by `item`. -/
def members? (item : List Char → Option (Toml × List Char)) :
    Nat → Toml → List Char → Option (Toml × List Char)
  | 0, _, _ => none
  | fuel + 1, t, cs =>
    match key? (cs.length + 1) cs with
    | some (ks, '=' :: cs) =>
      match splitKey? ks, item (skipSpace cs) with
      | some (path, k), some (v, cs) =>
        match t.assign path k v with
        | none => none
        | some t =>
          match skipSpace cs with
          | ',' :: cs => members? item fuel t cs
          | '\x7d' :: rest => some (t, rest)
          | _ => none
      | _, _ => none
    | _ => none

/-- A string, or a value that is a single token. -/
def plain? (cs : List Char) : Option (Toml × List Char) :=
  match cs with
  | '"' :: _ => (string? cs).map fun (s, rest) => (.text (String.ofList s), rest)
  | '\x27' :: _ => (string? cs).map fun (s, rest) => (.text (String.ofList s), rest)
  | _ =>
    let (token, rest) := takeToken cs
    (scalar? token).map fun v => (v, rest)

/-- A value. The first argument is the depth that is left for values within it. -/
def value? : Nat → List Char → Option (Toml × List Char)
  | 0, cs => plain? cs
  | depth + 1, '[' :: cs =>
    (items? (value? depth) (cs.length + 1) cs).map fun (vs, rest) => (.array vs, rest)
  | depth + 1, '\x7b' :: cs =>
    match skipSpace cs with
    | '\x7d' :: rest => some (.closedTable [], rest)
    | cs =>
      (members? (value? depth) (cs.length + 1) (.table false false []) cs).map fun (t, rest) =>
        (.closedTable t.entries, rest)
  | _ + 1, cs => plain? cs

/-! ### Lines -/

/-- A header without its brackets, and the rest of its line. -/
def header? (close : List Char) (cs : List Char) : Option (List String × List Char) :=
  match key? (cs.length + 1) cs with
  | none => none
  | some (ks, cs) =>
    if depthMax < ks.length then none
    else if close.isPrefixOf cs then
      (restOfLine? (cs.drop close.length)).map fun rest => (ks, rest)
    else none

/-- An assignment and the rest of its line. -/
def assignment? (cs : List Char) : Option ((List String × String × Toml) × List Char) :=
  match key? (cs.length + 1) cs with
  | some (ks, '=' :: cs) =>
    match splitKey? ks, value? depthMax (skipSpace cs) with
    | some (path, k), some (v, cs) => (restOfLine? cs).map fun rest => ((path, k, v), rest)
    | _, _ => none
  | _ => none

/-- Reads the lines of a document. The first argument bounds their number. -/
def lines? : Nat → TomlBuilder → List Char → Option Toml
  | 0, _, _ => none
  | fuel + 1, b, cs =>
    match skipBlank cs with
    | [] => b.finish
    | '[' :: '[' :: cs =>
      match header? "]]".toList cs with
      | none => none
      | some (path, cs) =>
        match b.repeatedHeader path with
        | none => none
        | some b => lines? fuel b cs
    | '[' :: cs =>
      match header? "]".toList cs with
      | none => none
      | some (path, cs) =>
        match b.header path with
        | none => none
        | some b => lines? fuel b cs
    | cs =>
      match assignment? cs with
      | none => none
      | some ((path, k, v), cs) =>
        match b.assign path k v with
        | none => none
        | some b => lines? fuel b cs

/-- The table that a whole text spells. A byte order mark before it is skipped. -/
def parse (s : String) : Option Toml :=
  let cs :=
    match s.toList with
    | '\ufeff' :: cs => cs
    | cs => cs
  lines? (cs.length + 1) .start cs

end WidgetStage.Toml
