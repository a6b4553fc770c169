import WidgetStage.Duration
import WidgetStage.Text.Numeral

/-!
# Input events

An input event arrives as a word. Its upper half names the category by a single bit, its lower
half is a code within the category. Scrolling and changing a value need a second word, the
action type, which says what phase or direction is meant.

* `InputEvent.decode` — reads an event; the category is judged first, then the code, then the
  action type.
* `eventWord` — writes a category and a code into a word.
-/

namespace WidgetStage

/-- The action types that accompany an event. -/
inductive ActionType where
  | down
  | move
  | up
  | current
  | next
  | prev
  | off
  deriving DecidableEq, Repr

namespace ActionType

/-- The action type with a number. -/
def ofNat? : Nat → Option ActionType
  | 0 => some .down
  | 1 => some .move
  | 2 => some .up
  | 3 => some .current
  | 4 => some .next
  | 5 => some .prev
  | 6 => some .off
  | _ => none

/-- The number of an action type. -/
def toNat : ActionType → Nat
  | .down => 0
  | .move => 1
  | .up => 2
  | .current => 3
  | .next => 4
  | .prev => 5
  | .off => 6

/-- The name of an action type. -/
def name : ActionType → String
  | .down => "Down"
  | .move => "Move"
  | .up => "Up"
  | .current => "Current"
  | .next => "Next"
  | .prev => "Prev"
  | .off => "Off"

/-- An action type is recovered from its number. -/
theorem ofNat?_toNat (a : ActionType) : ofNat? a.toNat = some a := by
  cases a <;> rfl

end ActionType

/-- The phases of scrolling. -/
inductive ScrollPhase where
  | start
  | move
  | stop
  deriving DecidableEq, Repr

/-- The directions in which a value changes. -/
inductive ActionDirection where
  | increase
  | decrease
  deriving DecidableEq, Repr

/-- What an assistive device asks for. -/
inductive AccessAction where
  | highlight
  | highlightNext
  | highlightPrev
  | unhighlight
  | activate
  | action (direction : ActionDirection)
  | scroll (phase : ScrollPhase)
  | valueChange
  | mouse
  | back
  | over
  | read
  | enable
  | disable
  deriving DecidableEq, Repr

/-- What a pointer did. -/
inductive MouseAction where
  | down
  | up
  | move
  | enter
  | leave
  deriving DecidableEq, Repr

/-- What a key or the key focus did. -/
inductive KeyAction where
  | down
  | up
  | focusIn
  | focusOut
  deriving DecidableEq, Repr

namespace ScrollPhase

/-- The name of a phase. -/
def name : ScrollPhase → String
  | .start => "Begin"
  | .move => "Move"
  | .stop => "End"

end ScrollPhase

namespace ActionDirection

/-- The name of a direction. -/
def name : ActionDirection → String
  | .increase => "Increase"
  | .decrease => "Decrease"

end ActionDirection

namespace AccessAction

/-- The name of an action, with its phase or direction if it has one. -/
def name : AccessAction → String
  | .highlight => "Highlight"
  | .highlightNext => "HighlightNext"
  | .highlightPrev => "HighlightPrev"
  | .unhighlight => "Unhighlight"
  | .activate => "Activate"
  | .action direction => "Action(" ++ direction.name ++ ")"
  | .scroll phase => "Scroll(" ++ phase.name ++ ")"
  | .valueChange => "ValueChange"
  | .mouse => "Mouse"
  | .back => "Back"
  | .over => "Over"
  | .read => "Read"
  | .enable => "Enable"
  | .disable => "Disable"

end AccessAction

namespace MouseAction

/-- The name of a pointer action. -/
def name : MouseAction → String
  | .down => "Down"
  | .up => "Up"
  | .move => "Move"
  | .enter => "In"
  | .leave => "Out"

end MouseAction

namespace KeyAction

/-- The name of a key action. -/
def name : KeyAction → String
  | .down => "Down"
  | .up => "Up"
  | .focusIn => "FocusIn"
  | .focusOut => "FocusOut"

end KeyAction

/-- A decoded event. -/
inductive InputEvent where
  | access (action : AccessAction)
  | mouse (action : MouseAction)
  | key (action : KeyAction)
  deriving DecidableEq, Repr

/-- The categories of events. -/
inductive EventCategory where
  | access
  | mouse
  | key
  deriving DecidableEq, Repr

namespace EventCategory

/-- The word of a category with its code left at zero. -/
def bits : EventCategory → UInt32
  | .access => 0x01000000
  | .mouse => 0x02000000
  | .key => 0x04000000

/-- The category whose word has this upper half. -/
def ofUpperHalf? (n : Nat) : Option EventCategory :=
  if n = 0x0100 then some .access
  else if n = 0x0200 then some .mouse
  else if n = 0x0400 then some .key
  else none

end EventCategory

/-- Puts a code into the lower half of a word; the part of the code beyond it is dropped. -/
def eventWord (bits code : UInt32) : UInt32 :=
  bits ||| (code &&& 0xFFFF)

/-- Why a word is not an event. -/
inductive EventError where
  /-- The upper half is not the bit of one category. -/
  | category (raw : UInt32)
  /-- The category has no event with this code. -/
  | code (category : EventCategory) (code : Nat)
  /-- The event needs another action type. -/
  | actionType (raw : UInt32)
  deriving DecidableEq, Repr

/-- The text of the error. -/
def EventError.message : EventError → String
  | .category raw => "event code " ++ Text.hexWord raw.toNat ++ " has no single known category"
  | .code kind n =>
    "unknown sub-code " ++ toString n ++ " for category " ++ Text.hexWord kind.bits.toNat
  | .actionType raw => "unsupported action type " ++ toString raw.toNat

namespace ScrollPhase

/-- The phase that an action type means. -/
def ofActionType? : ActionType → Option ScrollPhase
  | .down => some .start
  | .move => some .move
  | .up => some .stop
  | _ => none

end ScrollPhase

namespace ActionDirection

/-- The direction that an action type means. -/
def ofActionType? : ActionType → Option ActionDirection
  | .up => some .increase
  | .down => some .decrease
  | _ => none

end ActionDirection

namespace InputEvent

/-- The category of an event. -/
def category : InputEvent → EventCategory
  | .access _ => .access
  | .mouse _ => .mouse
  | .key _ => .key

/-- Reads the action type of an event that needs one. -/
def needing {α : Type} (reading : ActionType → Option α) (action : UInt32) :
    Except EventError α :=
  match (ActionType.ofNat? action.toNat).bind reading with
  | some a => .ok a
  | none => .error (.actionType action)

/-- The accessibility action with a code. -/
def accessAction (code : Nat) (action : UInt32) : Except EventError AccessAction :=
  match code with
  | 1 => .ok .highlight
  | 2 => .ok .highlightNext
  | 3 => .ok .highlightPrev
  | 4 => .ok .unhighlight
  | 5 => .ok .activate
  | 6 => (needing ActionDirection.ofActionType? action).map .action
  | 7 => (needing ScrollPhase.ofActionType? action).map .scroll
  | 8 => .ok .valueChange
  | 9 => .ok .mouse
  | 10 => .ok .back
  | 11 => .ok .over
  | 12 => .ok .read
  | 13 => .ok .enable
  | 14 => .ok .disable
  | code => .error (.code .access code)

/-- The pointer action with a code. -/
def mouseAction (code : Nat) : Except EventError MouseAction :=
  match code with
  | 1 => .ok .down
  | 2 => .ok .up
  | 3 => .ok .move
  | 4 => .ok .enter
  | 5 => .ok .leave
  | code => .error (.code .mouse code)

/-- The key action with a code. -/
def keyAction (code : Nat) : Except EventError KeyAction :=
  match code with
  | 1 => .ok .down
  | 2 => .ok .up
  | 3 => .ok .focusIn
  | 4 => .ok .focusOut
  | code => .error (.code .key code)

/-- Reads an event from its word and the action type that came with it. -/
def decode (raw action : UInt32) : Except EventError InputEvent :=
  let code := raw.toNat % 65536
  match EventCategory.ofUpperHalf? (raw.toNat / 65536) with
  | none => .error (.category raw)
  | some .access => (accessAction code action).map .access
  | some .mouse => (mouseAction code).map .mouse
  | some .key => (keyAction code).map .key

end InputEvent

/-- What accompanies the word of an event. -/
structure EventInfo where
  x : Float
  y : Float
  timestamp : Duration
  actionType : UInt32
  keyCode : UInt32

namespace EventInfo

/-- The position and time of a pointer, with no action type or key. -/
def pointer (x y : Float) (timestamp : Duration) : EventInfo :=
  ⟨x, y, timestamp, 0, 0⟩

/-- Sets the action type. -/
def withActionType (i : EventInfo) (a : ActionType) : EventInfo :=
  { i with actionType := UInt32.ofNat a.toNat }

/-- Sets the key. -/
def withKeyCode (i : EventInfo) (code : UInt32) : EventInfo :=
  { i with keyCode := code }

/-- Whether nothing is said: the origin, the epoch, no action type and no key. The position is
compared as numbers, so a negative zero is the origin too. -/
def isBlank (i : EventInfo) : Bool :=
  i.x == 0 && i.y == 0 && i.timestamp == .zero && i.actionType == 0 && i.keyCode == 0

end EventInfo

end WidgetStage
