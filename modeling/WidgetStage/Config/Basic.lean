import WidgetStage.Decimal.Notation
import WidgetStage.Duration
import WidgetStage.Status
import WidgetStage.Text.Blank

/-!
# Configuration

The settings of a stage are fixed when it starts. Every setting has a default, and three of them
have a range.

* `Config.problems` — what is out of range.
* `Config.check_eq_ok_iff` — settings are accepted exactly if nothing is out of range.
-/

namespace WidgetStage

/-- The settings of a stage. -/
structure Config where
  /-- The factor between a size that an image asks for and the one it gets. -/
  uiScale : Float
  /-- The age in milliseconds beyond which pointer events are stale. -/
  staleWindowMillis : Nat
  /-- Whether shadows are cast. -/
  shadowEnabled : Bool
  logFilter : String
  deriving DecidableEq

/-- A setting that is out of range. -/
inductive ConfigProblem where
  /-- The scale is not a positive number. -/
  | uiScale (value : Float)
  /-- No event would be fresh. -/
  | staleWindow
  /-- The log filter is white space. -/
  | logFilter
  deriving DecidableEq

/-- Why settings are not accepted. -/
inductive ConfigError where
  /-- Their file could not be read. -/
  | io (message : String)
  /-- The text is not a TOML document of settings. -/
  | toml
  /-- The text is not a JSON document of settings. -/
  | json
  /-- Some are out of range. -/
  | validation (problems : List ConfigProblem)
  deriving DecidableEq

namespace Config

/-- The default settings. -/
def standard : Config :=
  ⟨1.0, 100, true, "info"⟩

/-- A scale in a message has as few digits as possible and no exponent. -/
def scaleNotation : Decimal.Notation where
  positional _ := true
  pointZero := false
  plusSign := false
  tie := .up
  notANumber := "NaN"
  infinity := "inf"
  negativeInfinity := "-inf"

/-- Whether a scale is a positive number. -/
def isScale (x : Float) : Bool :=
  x.isFinite && decide (0 < x)

/-- The settings that are out of range, in the order in which they are listed above. -/
def problems (c : Config) : List ConfigProblem :=
  (if isScale c.uiScale then [] else [.uiScale c.uiScale]) ++
    ((if c.staleWindowMillis = 0 then [.staleWindow] else []) ++
      (if Text.trim c.logFilter.toList = [] then [.logFilter] else []))

/-- Accepts settings if none of them is out of range. -/
def check (c : Config) : Except ConfigError Config :=
  if c.problems.isEmpty then .ok c else .error (.validation c.problems)

/-- The age beyond which pointer events are stale. -/
def staleWindow (c : Config) : Duration :=
  .ofMillis c.staleWindowMillis

/-- Settings are accepted exactly if nothing is out of range. -/
theorem check_eq_ok_iff {c d : Config} : c.check = .ok d ↔ c = d ∧ c.problems = [] := by
  unfold check
  split
  · next h =>
    constructor
    · rintro ⟨⟩
      exact ⟨rfl, List.isEmpty_iff.1 h⟩
    · rintro ⟨rfl, -⟩
      rfl
  · next h =>
    constructor
    · intro h'
      cases h'
    · rintro ⟨-, h'⟩
      simp [h'] at h

end Config

/-- The text of the problem. -/
def ConfigProblem.message : ConfigProblem → String
  | .uiScale value => "ui_scale must be finite and > 0, got " ++ Config.scaleNotation.write value
  | .staleWindow => "stale_event_window_ms must be > 0"
  | .logFilter => "log_filter must not be empty"

namespace ConfigError

/-- The text of the error. -/
def message : ConfigError → String
  | .io message => "I/O error: " ++ message
  | .toml => "TOML parse error"
  | .json => "JSON parse error"
  | .validation problems =>
    "validation errors: " ++ "; ".intercalate (problems.map ConfigProblem.message)

/-- Whether the error comes from something else that failed. -/
def hasSource : ConfigError → Bool
  | .validation _ => false
  | _ => true

/-- The error of the command that needed the settings. -/
def toStageError (e : ConfigError) : StageError :=
  .invalidParameter e.message

end ConfigError

end WidgetStage
