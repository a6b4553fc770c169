import WidgetStage.Pattern.Reading
import WidgetStage.Text.Alphanumeric
import WidgetStage.Text.Blank
import WidgetStage.Text.Bytes
import WidgetStage.Text.Numeral
import WidgetStage.Text.Quoted

/-!
# Log filters

A log filter is a list of directives between commas; nothing between two commas is no directive
and does no harm. A directive is a level, or a scope with or without an equals sign and a level,
where no level means everything. A scope is a target, a span in brackets, or both, and a span may
have a field in braces at its end. A field is a name, or a name with a number or a pattern after
an equals sign:

    info
    stage
    stage.input=warn
    stage[load{path}]=debug
    [load{path=.*[.]png}]

White space around a directive does not count, but there must be none if a level is given. The
place of a field is counted without the white space, but found in the text that has it.

* `LogFilter.Directive.ofText?` — the grammar of directives.
* `LogFilter.check` — accepts a filter all of whose directives are well formed.
-/

namespace WidgetStage

/-- Why logging could not be set up. -/
inductive LogError where
  /-- The text is not a filter. -/
  | filter (text message : String)
  /-- Logging has been set up before. -/
  | installed
  deriving DecidableEq, Repr

/-- The text of the error. -/
def LogError.message : LogError → String
  | .filter text message => "invalid log filter " ++ Text.quote text ++ ": " ++ message
  | .installed => "global subscriber already installed"

namespace LogFilter

/-- The levels, from nothing to everything; a level may also be written as its index. -/
def levels : List String :=
  ["off", "error", "warn", "info", "debug", "trace"]

/-- Whether a text is a level: a name in any case, or the index of one. -/
def isLevel (cs : List Char) : Bool :=
  levels.contains (String.ofList (cs.map Char.toLower)) ||
    (Text.natural? 10 (levels.length - 1) cs).isSome

/-- Whether a text is a field: a name, or a name with a number or a pattern as its value. What
follows a second equals sign does not count. -/
def isField (cs : List Char) : Bool :=
  match Text.cut (· == '=') cs with
  | _ :: value :: _ => Text.isNumber value || Pattern.check value
  | _ => true

/-- The place of a field, in bytes. -/
structure FieldPlace where
  /-- From the start of the field to the end of the directive. -/
  fromEnd : Nat
  /-- From the start of the field to its end. -/
  length : Nat
  deriving DecidableEq, Repr

/-- What a directive says, as far as it matters to whether it is well formed. -/
structure Directive where
  /-- Where the field is, if there is one. -/
  field : Option FieldPlace
  /-- What follows the equals sign before the level, if there is one. -/
  level : Option (List Char)
  deriving DecidableEq, Repr

namespace Directive

/-- Whether a target may start with the character. -/
def startsTarget (c : Char) : Bool :=
  c == '-' || c == ':' || c == '_' || Text.isAlphanumeric c

/-- What may follow a span: nothing, or a level. -/
def afterSpan? (field : Option FieldPlace) : List Char → Option Directive
  | [] => some ⟨field, none⟩
  | '=' :: level => some ⟨field, some level⟩
  | _ => none

/-- What may follow the brace before a field: a field, and the ends of the field and the span. -/
def afterBrace? (cs : List Char) : Option Directive :=
  let place : FieldPlace := ⟨Text.byteCount cs, Text.byteCount (cs.takeWhile (· ≠ '\x7d'))⟩
  match cs.dropWhile (· ≠ '\x7d') with
  | '\x7d' :: ']' :: rest => if place.length = 0 then none else afterSpan? (some place) rest
  | _ => none

/-- What may follow the bracket before a span: its name, with or without a field. -/
def afterBracket? (cs : List Char) : Option Directive :=
  match cs.dropWhile (fun c => c ≠ ']' ∧ c ≠ '\x7b') with
  | ']' :: rest => afterSpan? none rest
  | '\x7b' :: rest => afterBrace? rest
  | _ => none

/-- What may follow the first character of a target: the rest of it, with or without a span or
a level. -/
def afterStart? (cs : List Char) : Option Directive :=
  match cs.dropWhile (fun c => c ≠ '=' ∧ c ≠ '[') with
  | '[' :: rest => afterBracket? rest
  | '=' :: level => some ⟨none, some level⟩
  | _ => some ⟨none, none⟩

/-- The directive in a text without white space around it. -/
def ofText? : List Char → Option Directive
  | [] => none
  | '[' :: cs => afterBracket? cs
  | c :: cs => if startsTarget c then afterStart? cs else none

end Directive

/-- Whether there is a field in a place of a piece. The place is that in the directive `bare`. -/
def hasField (piece bare : List Char) (place : FieldPlace) : Bool :=
  let start := Text.byteCount bare - place.fromEnd
  (Text.bytesBetween? start place.length piece).any isField

/-- Whether a piece of a filter is a well-formed directive. -/
def isDirective (piece : List Char) : Bool :=
  let bare := Text.trim piece
  match Directive.ofText? bare with
  | none => false
  | some d =>
    d.field.all (hasField piece bare) &&
      d.level.all fun level => piece == bare && (level.isEmpty || isLevel level)

/-- Whether the text is a filter. -/
def check (s : String) : Bool :=
  (Text.cut (· == ',') s.toList).all fun piece => piece.isEmpty || isDirective piece

end LogFilter

end WidgetStage
