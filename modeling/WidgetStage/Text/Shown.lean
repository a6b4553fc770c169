import WidgetStage.Text.Extending
import WidgetStage.Text.Ranges
import WidgetStage.Text.Unseen

/-!
# Characters shown as themselves

A quoted text shows most characters as they are. The exceptions are the characters that are not
seen and those that extend the character before them. The space is shown.

* `isShown` — whether a character is shown as itself.
-/

namespace WidgetStage.Text

/-- Whether a quoted text shows the character as itself. ASCII is decided without a table. -/
def isShown (c : Char) : Bool :=
  if c.toNat < 0x7F then 0x20 ≤ c.toNat
  else !(inRanges unseenRanges c.toNat || inRanges extendingRanges c.toNat)

end WidgetStage.Text
