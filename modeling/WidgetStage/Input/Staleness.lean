import WidgetStage.Input.Event
import WidgetStage.Status

/-!
# Stale pointer events and answers to input

Pointer events that arrive late are dropped, unless a button is held: from an accepted press to
the next accepted release everything is accepted, however late.

* `StalenessFilter.accept` — whether an event is delivered, and the filter after it.
-/

namespace WidgetStage

/-- How late a pointer event may be, and whether a button is held. -/
structure StalenessFilter where
  window : Duration
  latched : Bool
  deriving DecidableEq, Repr

namespace StalenessFilter

/-- A filter with no button held. -/
def start (window : Duration) : StalenessFilter :=
  ⟨window, false⟩

/-- Whether an event of this age is dropped. An event from the future has no age. -/
def isStale (f : StalenessFilter) (timestamp now : Duration) : Bool :=
  !f.latched && decide (f.window.nanos < (now.since timestamp).nanos)

/-- The filter after an accepted event. -/
def after (f : StalenessFilter) : MouseAction → StalenessFilter
  | .down => { f with latched := true }
  | .up => { f with latched := false }
  | .move => f
  | .enter => f
  | .leave => f

/-- Whether an event is accepted, and the filter after it. A dropped event changes nothing. -/
def accept (f : StalenessFilter) (action : MouseAction) (timestamp now : Duration) :
    Bool × StalenessFilter :=
  if f.isStale timestamp now then (false, f) else (true, f.after action)

end StalenessFilter

/-- The answer to an accessibility action: an unhandled step of the highlight has met an end of
the list. -/
def accessStatus : AccessAction → Bool → EventStatus
  | _, true => .done
  | .highlightNext, false => .last
  | .highlightPrev, false => .first
  | _, false => .error

/-- The answer to a key event. -/
def keyStatus : Bool → EventStatus
  | true => .done
  | false => .error

end WidgetStage
