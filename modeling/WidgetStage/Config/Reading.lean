import WidgetStage.Config.Basic
import WidgetStage.Document.Json
import WidgetStage.Document.Toml.Reader
import WidgetStage.Files

/-!
# Settings in documents

Settings are read from TOML and JSON documents, and written to JSON. A setting that a document
does not mention has its default; what a document mentions beyond the settings is ignored. In
JSON the settings may also be given by position, in an array.

* `Config.ofToml`, `Config.ofJson` — reading; `Config.ofFile` reads a TOML file.
* `Config.toJson` — writing.
-/

namespace WidgetStage.Config

/-- The keys of the settings, in the order of their positions. -/
def keys : List String :=
  ["ui_scale", "stale_event_window_ms", "shadow_enabled", "log_filter"]

/-- A whole number as a double. -/
def floatOfInt (n : Int) : Float :=
  let x := n.natAbs.toUInt64.toFloat
  if n < 0 then -x else x

/-- Reads a setting that may be missing: the default if it is, and none if it cannot be read. -/
def orDefault {α β : Type} (reading : α → Option β) (default : β) : Option α → Option β
  | none => some default
  | some v => reading v

/-! ### TOML -/

/-- A number; whole numbers are numbers too. -/
def tomlFloat? : Toml → Option Float
  | .float x => some x
  | .integer n => some (floatOfInt n)
  | _ => none

/-- A whole number that is not negative. -/
def tomlNat? : Toml → Option Nat
  | .integer n => if 0 ≤ n then some n.toNat else none
  | _ => none

/-- A truth value. -/
def tomlBool? : Toml → Option Bool
  | .boolean b => some b
  | _ => none

/-- A text. -/
def tomlText? : Toml → Option String
  | .text s => some s
  | _ => none

/-- The settings in the entries of a document. -/
def ofTomlEntries (entries : List (String × Toml)) : Option Config :=
  match orDefault tomlFloat? standard.uiScale (entries.lookup "ui_scale"),
    orDefault tomlNat? standard.staleWindowMillis (entries.lookup "stale_event_window_ms"),
    orDefault tomlBool? standard.shadowEnabled (entries.lookup "shadow_enabled"),
    orDefault tomlText? standard.logFilter (entries.lookup "log_filter") with
  | some a, some b, some c, some d => some ⟨a, b, c, d⟩
  | _, _, _, _ => none

/-- The settings in a TOML document. -/
def ofToml (s : String) : Except ConfigError Config :=
  match (Toml.parse s).bind fun t => ofTomlEntries t.entries with
  | none => .error .toml
  | some c => c.check

/-- The settings in a file that holds a TOML document. -/
def ofFile (files : Files) (path : String) : Except ConfigError Config :=
  match files.readText path with
  | .error fault => .error (.io fault.message)
  | .ok s => ofToml s

/-! ### JSON -/

/-- A number. -/
def jsonFloat? : Json → Option Float
  | .number n => n.toFloat?
  | _ => none

/-- A whole number of 64 bits. -/
def jsonNat? : Json → Option Nat
  | .number n => n.toWord?
  | _ => none

/-- A truth value. -/
def jsonBool? : Json → Option Bool
  | .boolean b => some b
  | _ => none

/-- A text. -/
def jsonText? : Json → Option String
  | .text s => s
  | _ => none

/-- The settings from the values that are given for them. -/
def ofJsonValues (scale window shadow filter : Option Json) : Option Config :=
  match orDefault jsonFloat? standard.uiScale scale,
    orDefault jsonNat? standard.staleWindowMillis window,
    orDefault jsonBool? standard.shadowEnabled shadow,
    orDefault jsonText? standard.logFilter filter with
  | some a, some b, some c, some d => some ⟨a, b, c, d⟩
  | _, _, _, _ => none

/-- Whether every key is a text and no setting is given twice. -/
def keysFit (members : List (Option String × Json)) : Bool :=
  members.all (fun m => m.1.isSome) &&
    keys.all fun k => members.countP (fun m => m.1 == some k) ≤ 1

/-- The settings in a JSON value. -/
def ofJsonValue : Json → Option Config
  | .object members =>
    if keysFit members then
      ofJsonValues (members.lookup (some "ui_scale"))
        (members.lookup (some "stale_event_window_ms")) (members.lookup (some "shadow_enabled"))
        (members.lookup (some "log_filter"))
    else
      none
  | .array items =>
    if items.length ≤ keys.length then ofJsonValues items[0]? items[1]? items[2]? items[3]?
    else none
  | _ => none

/-- The settings in a JSON document. -/
def ofJson (s : String) : Except ConfigError Config :=
  match (Json.parse s).bind ofJsonValue with
  | none => .error .json
  | some c => c.check

/-- A scale in a document has as few digits as possible, with a fraction, and with a signed
exponent if it is very small or very large. -/
def documentNotation : Decimal.Notation where
  positional k := -5 < k && k ≤ 16
  pointZero := true
  plusSign := true
  tie := .even
  notANumber := "null"
  infinity := "null"
  negativeInfinity := "null"

/-- The settings as a JSON document. -/
def toJson (c : Config) : String :=
  "\x7b\"ui_scale\":" ++ documentNotation.write c.uiScale ++
    (",\"stale_event_window_ms\":" ++ toString c.staleWindowMillis) ++
    (",\"shadow_enabled\":" ++ (if c.shadowEnabled then "true" else "false")) ++
    (",\"log_filter\":" ++ Json.writeText c.logFilter ++ "\x7d")

end WidgetStage.Config
