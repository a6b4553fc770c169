import WidgetStage.Input.Event

/-!
# The words of events

An event is written as a word that has the bit of its category above and its code below. Nothing
else is read as this event, so that the word is recovered from the event. Scrolling and changing a
value need the action type as well, which is read beside the word and leaves no trace in it.

A word fails to be an event for the first of three reasons that applies: the category, the code
within the category, and the action type.

## Main results

* `InputEvent.decode_eq`: the category of a word decides how its lower half is read.
* `EventCategory.read_eq_ok_iff`, `EventCategory.read_eq_error_iff`: what the codes of a category
  stand for.
* `InputEvent.decode_eq_ok_iff`: the only word that is read as an event is the word of the event.
* `InputEvent.decode_exact`: which words are events, why the others are not, and how events are
  recovered.
-/

namespace WidgetStage

/-! ### Writing events -/

namespace ScrollPhase

/-- The action type that a phase is written with. -/
def actionType : ScrollPhase → ActionType
  | .start => .down
  | .move => .move
  | .stop => .up

end ScrollPhase

namespace ActionDirection

/-- The action type that a direction is written with. -/
def actionType : ActionDirection → ActionType
  | .increase => .up
  | .decrease => .down

end ActionDirection

namespace AccessAction

/-- The code of an accessibility action. -/
def code : AccessAction → Nat
  | .highlight => 1
  | .highlightNext => 2
  | .highlightPrev => 3
  | .unhighlight => 4
  | .activate => 5
  | .action _ => 6
  | .scroll _ => 7
  | .valueChange => 8
  | .mouse => 9
  | .back => 10
  | .over => 11
  | .read => 12
  | .enable => 13
  | .disable => 14

/-- The action type that an accessibility action needs, if it needs one. -/
def actionType? : AccessAction → Option ActionType
  | .action direction => some direction.actionType
  | .scroll phase => some phase.actionType
  | _ => none

end AccessAction

/-- The code of a pointer action. -/
def MouseAction.code : MouseAction → Nat
  | .down => 1
  | .up => 2
  | .move => 3
  | .enter => 4
  | .leave => 5

/-- The code of a key action. -/
def KeyAction.code : KeyAction → Nat
  | .down => 1
  | .up => 2
  | .focusIn => 3
  | .focusOut => 4

namespace InputEvent

/-- The code of an event within its category. -/
def code : InputEvent → Nat
  | .access action => action.code
  | .mouse action => action.code
  | .key action => action.code

/-- The word of an event. -/
def word (e : InputEvent) : UInt32 :=
  eventWord e.category.bits (UInt32.ofNat e.code)

/-- The action type that an event needs, if it needs one. -/
def actionType? : InputEvent → Option ActionType
  | .access action => action.actionType?
  | .mouse _ => none
  | .key _ => none

/-- The action type may come with the event: it is the one that the event needs, if any. -/
def Admits (e : InputEvent) (action : UInt32) : Prop :=
  ∀ a, e.actionType? = some a → action.toNat = a.toNat

end InputEvent

/-! ### Reading codes -/

namespace EventCategory

/-- The codes of a category begin with one and end with this one. -/
def lastCode : EventCategory → Nat
  | .access => 14
  | .mouse => 5
  | .key => 4

/-- The category has an event with the code. -/
def HasCode (c : EventCategory) (code : Nat) : Prop :=
  1 ≤ code ∧ code ≤ c.lastCode

/-- The action type may come with the code: a change of a value goes in one of two directions, and
scrolling has three phases. -/
def Takes (c : EventCategory) (code : Nat) (action : UInt32) : Prop :=
  c = .access →
    (code = 6 → action = 0 ∨ action = 2) ∧ (code = 7 → action = 0 ∨ action = 1 ∨ action = 2)

/-- The event of a category with a code. -/
def read (c : EventCategory) (code : Nat) (action : UInt32) : Except EventError InputEvent :=
  match c with
  | .access => (InputEvent.accessAction code action).map .access
  | .mouse => (InputEvent.mouseAction code).map .mouse
  | .key => (InputEvent.keyAction code).map .key

end EventCategory

/-! ### Halves of a word -/

section Halves

variable {raw s : UInt32} {c : EventCategory}

/-- The lower half of a word is its rest by `2 ^ 16`. -/
theorem toNat_lowerHalf (raw : UInt32) : (raw &&& 0xFFFF).toNat = raw.toNat % 65536 :=
  Nat.and_two_pow_sub_one_eq_mod raw.toNat 16

/-- The upper half is what is left of the word without its lower half. -/
theorem toNat_upperHalf (raw : UInt32) :
    (raw &&& 0xFFFF0000).toNat = raw.toNat / 65536 * 65536 := by
  have hmask : (0xFFFF0000 : UInt32).toNat = (2 ^ 16 - 1) * 2 ^ 16 := rfl
  have hhigh : raw.toNat / 2 ^ 16 < 2 ^ 16 := Nat.div_lt_of_lt_mul raw.toNat_lt
  rw [UInt32.toNat_and, hmask]
  calc raw.toNat &&& (2 ^ 16 - 1) * 2 ^ 16
      = (raw.toNat / 2 ^ 16 &&& (2 ^ 16 - 1)) * 2 ^ 16 := by
        apply Nat.eq_of_testBit_eq
        intro i
        rw [Nat.testBit_and, Nat.testBit_mul_two_pow, Nat.testBit_mul_two_pow, Nat.testBit_and,
          Nat.testBit_div_two_pow]
        by_cases hi : 16 ≤ i
        · simp [hi]
        · simp [hi]
    _ = raw.toNat / 2 ^ 16 * 2 ^ 16 := by
        rw [Nat.and_two_pow_sub_one_eq_mod, Nat.mod_eq_of_lt hhigh]

namespace EventCategory

/-- A category leaves the lower half of a word to the code. -/
theorem toNat_bits_mod (c : EventCategory) : c.bits.toNat % 65536 = 0 := by
  cases c <;> rfl

/-- A category is read from the upper half that is its bit, and from no other. -/
theorem ofUpperHalf?_eq_some_iff {n : Nat} :
    ofUpperHalf? n = some c ↔ n * 65536 = c.bits.toNat := by
  have hbits : c.bits.toNat = match c with
      | .access => 0x0100 * 65536
      | .mouse => 0x0200 * 65536
      | .key => 0x0400 * 65536 := by cases c <;> rfl
  rw [hbits, ofUpperHalf?]
  cases c <;> grind

end EventCategory

/-- The category of a word stands in the upper half by itself. -/
theorem ofUpperHalf?_eq_some_iff_bits :
    EventCategory.ofUpperHalf? (raw.toNat / 65536) = some c ↔ raw &&& 0xFFFF0000 = c.bits := by
  rw [EventCategory.ofUpperHalf?_eq_some_iff, ← UInt32.toNat_inj, toNat_upperHalf]

/-- The two halves of a word do not meet. -/
theorem toNat_eventWord (c : EventCategory) (s : UInt32) :
    (eventWord c.bits s).toNat = c.bits.toNat + s.toNat % 65536 := by
  have hlow : s.toNat % 65536 < 2 ^ 16 := Nat.mod_lt _ (Nat.two_pow_pos 16)
  have hbits : c.bits.toNat = (c.bits.toNat / 2 ^ 16) <<< 16 := by
    cases c <;> rfl
  rw [eventWord, UInt32.toNat_or, toNat_lowerHalf, hbits, Nat.shiftLeft_add_eq_or_of_lt hlow]

/-- The upper half of an event word is the bit of its category. -/
theorem upperHalf_eventWord (c : EventCategory) (s : UInt32) :
    eventWord c.bits s &&& 0xFFFF0000 = c.bits := by
  have hbits := c.toNat_bits_mod
  rw [← UInt32.toNat_inj, toNat_upperHalf, toNat_eventWord]
  omega

/-- The lower half of an event word is that of the code that was put into it. -/
theorem lowerHalf_eventWord (c : EventCategory) (s : UInt32) :
    eventWord c.bits s &&& 0xFFFF = s &&& 0xFFFF := by
  have hbits := c.toNat_bits_mod
  rw [← UInt32.toNat_inj, toNat_lowerHalf, toNat_lowerHalf, toNat_eventWord]
  omega

/-- A word is put together again from its halves. -/
theorem eq_eventWord_of_halves (hupper : raw &&& 0xFFFF0000 = c.bits)
    (hlower : raw &&& 0xFFFF = s) : raw = eventWord c.bits s := by
  have hupper' := congrArg UInt32.toNat hupper
  have hlower' := congrArg UInt32.toNat hlower
  rw [toNat_upperHalf] at hupper'
  rw [toNat_lowerHalf] at hlower'
  rw [← UInt32.toNat_inj, toNat_eventWord]
  omega

end Halves

/-! ### Action types -/

namespace ActionType

/-- An action type is read from its own number only. -/
theorem ofNat?_eq_some_iff {n : Nat} {a : ActionType} : ofNat? n = some a ↔ n = a.toNat := by
  constructor
  · intro h
    unfold ofNat? at h
    split at h <;> cases h <;> rfl
  · rintro rfl
    exact ofNat?_toNat a

end ActionType

/-- A scroll phase is read from the action type that is written for it. -/
theorem ScrollPhase.ofActionType?_eq_some_iff {a : ActionType} {phase : ScrollPhase} :
    ofActionType? a = some phase ↔ a = phase.actionType := by
  cases a <;> cases phase <;> decide

/-- A direction is read from the action type that is written for it. -/
theorem ActionDirection.ofActionType?_eq_some_iff {a : ActionType} {direction : ActionDirection} :
    ofActionType? a = some direction ↔ a = direction.actionType := by
  cases a <;> cases direction <;> decide

namespace InputEvent

variable {raw action s : UInt32} {code : Nat} {e : InputEvent} {err : EventError}

section Needing

variable {α : Type} {reading : ActionType → Option α} {written : α → ActionType} {v : α}

/-- What is read from an action type is what is written with it. -/
theorem needing_eq_ok_iff (hreading : ∀ a v, reading a = some v ↔ a = written v) :
    needing reading action = .ok v ↔ action.toNat = (written v).toNat := by
  have hbind : (ActionType.ofNat? action.toNat).bind reading = some v ↔
      action.toNat = (written v).toNat := by
    simp only [Option.bind_eq_some_iff, hreading, exists_eq_right, ActionType.ofNat?_eq_some_iff]
  rw [← hbind, needing]
  split
  next v' h => rw [h, Except.ok.injEq, Option.some.injEq]
  next h => simp [h]

/-- The number of an action type that nothing is written with is an error, which names it. -/
theorem needing_eq_error_iff (hreading : ∀ a v, reading a = some v ↔ a = written v) :
    needing reading action = .error err ↔
      (∀ v, action.toNat ≠ (written v).toNat) ∧ err = .actionType action := by
  simp only [ne_eq, ← needing_eq_ok_iff hreading, needing]
  split
  next v h => simp
  next h => simp [eq_comm]

end Needing

section Outcomes

variable {α β : Type} {f : α → β} {x : Except EventError α}

/-- Wrapping an action changes what comes of a success only. -/
theorem map_eq_ok_iff {b : β} : x.map f = .ok b ↔ ∃ a, x = .ok a ∧ f a = b := by
  cases x with
  | ok a => simp [Except.map]
  | error e => simp [Except.map]

/-- Wrapping an action passes errors on. -/
theorem map_eq_error_iff : x.map f = .error err ↔ x = .error err := by
  cases x with
  | ok a => simp [Except.map]
  | error e => simp [Except.map]

/-- What fails with no error succeeds. -/
theorem exists_eq_ok_iff : (∃ a, x = .ok a) ↔ ∀ err, x ≠ .error err := by
  cases x with
  | ok a => simp
  | error e => simp

end Outcomes

/-- Access actions are read from their codes, and scrolls and explorations only with the action type
that they need. -/
theorem accessAction_eq_ok_iff {a : AccessAction} :
    accessAction code action = .ok a ↔
      code = a.code ∧ ∀ t, a.actionType? = some t → action.toNat = t.toNat := by
  constructor
  · intro h
    unfold accessAction at h
    split at h
    case h_6 =>
      obtain ⟨direction, hd, rfl⟩ := map_eq_ok_iff.1 h
      rw [needing_eq_ok_iff fun a v => ActionDirection.ofActionType?_eq_some_iff] at hd
      exact ⟨rfl, by rintro t ⟨⟩; exact hd⟩
    case h_7 =>
      obtain ⟨phase, hp, rfl⟩ := map_eq_ok_iff.1 h
      rw [needing_eq_ok_iff fun a v => ScrollPhase.ofActionType?_eq_some_iff] at hp
      exact ⟨rfl, by rintro t ⟨⟩; exact hp⟩
    all_goals cases h
    all_goals exact ⟨rfl, nofun⟩
  · rintro ⟨rfl, h⟩
    cases a with
    | action direction =>
        have hd := (needing_eq_ok_iff fun a v => ActionDirection.ofActionType?_eq_some_iff).2
          (h direction.actionType rfl)
        exact congrArg (Except.map AccessAction.action) hd
    | scroll phase =>
        have hp := (needing_eq_ok_iff fun a v => ScrollPhase.ofActionType?_eq_some_iff).2
          (h phase.actionType rfl)
        exact congrArg (Except.map AccessAction.scroll) hp
    | _ => rfl

/-- Mouse actions are read from their codes. -/
theorem mouseAction_eq_ok_iff {a : MouseAction} : mouseAction code = .ok a ↔ code = a.code := by
  constructor
  · intro h
    unfold mouseAction at h
    split at h <;> cases h <;> rfl
  · rintro rfl
    cases a <;> rfl

/-- Key actions are read from their codes. -/
theorem keyAction_eq_ok_iff {a : KeyAction} : keyAction code = .ok a ↔ code = a.code := by
  constructor
  · intro h
    unfold keyAction at h
    split at h <;> cases h <;> rfl
  · rintro rfl
    cases a <;> rfl

/-- The directions are written with the first and the third action type. -/
theorem forall_direction_ne_iff :
    (∀ d : ActionDirection, action.toNat ≠ d.actionType.toNat) ↔ ¬ (action = 0 ∨ action = 2) := by
  simp only [← UInt32.toNat_inj]
  constructor
  · rintro h (hzero | htwo)
    · exact h .decrease hzero
    · exact h .increase htwo
  · rintro h (_ | _)
    · exact fun htwo => h (.inr htwo)
    · exact fun hzero => h (.inl hzero)

/-- The phases are written with the first three action types. -/
theorem forall_phase_ne_iff :
    (∀ p : ScrollPhase, action.toNat ≠ p.actionType.toNat) ↔
      ¬ (action = 0 ∨ action = 1 ∨ action = 2) := by
  simp only [← UInt32.toNat_inj]
  constructor
  · rintro h (hzero | hone | htwo)
    · exact h .start hzero
    · exact h .move hone
    · exact h .stop htwo
  · rintro h (_ | _ | _)
    · exact fun hzero => h (.inl hzero)
    · exact fun hone => h (.inr (.inl hone))
    · exact fun htwo => h (.inr (.inr htwo))

/-- An unknown access code is to blame even if the action type is wrong, too. -/
theorem accessAction_eq_error_iff :
    accessAction code action = .error err ↔
      (¬ EventCategory.access.HasCode code ∧ err = .code .access code) ∨
      (EventCategory.access.HasCode code ∧ ¬ EventCategory.access.Takes code action ∧
        err = .actionType action) := by
  simp only [EventCategory.HasCode, EventCategory.lastCode, EventCategory.Takes]
  unfold accessAction
  split
  case h_6 =>
    rw [map_eq_error_iff, needing_eq_error_iff fun a v => ActionDirection.ofActionType?_eq_some_iff,
      forall_direction_ne_iff]
    simp
  case h_7 =>
    rw [map_eq_error_iff, needing_eq_error_iff fun a v => ScrollPhase.ofActionType?_eq_some_iff,
      forall_phase_ne_iff]
    simp
  case h_15 =>
    have hcode : ¬ (1 ≤ code ∧ code ≤ 14) := by grind
    simp [hcode, eq_comm]
  all_goals simp

/-- A mouse action fails for its code only. -/
theorem mouseAction_eq_error_iff :
    mouseAction code = .error err ↔
      ¬ EventCategory.mouse.HasCode code ∧ err = .code .mouse code := by
  simp only [EventCategory.HasCode, EventCategory.lastCode]
  unfold mouseAction
  split
  case h_6 =>
    have hcode : ¬ (1 ≤ code ∧ code ≤ 5) := by grind
    simp [hcode, eq_comm]
  all_goals simp

/-- A key action fails for its code only. -/
theorem keyAction_eq_error_iff :
    keyAction code = .error err ↔
      ¬ EventCategory.key.HasCode code ∧ err = .code .key code := by
  simp only [EventCategory.HasCode, EventCategory.lastCode]
  unfold keyAction
  split
  case h_5 =>
    have hcode : ¬ (1 ≤ code ∧ code ≤ 4) := by grind
    simp [hcode, eq_comm]
  all_goals simp

end InputEvent

/-! ### Categories -/

namespace EventCategory

variable {action : UInt32} {code : Nat} {c : EventCategory} {e : InputEvent} {err : EventError}

/-- An event is read under its own category, from its own code, and with an action type that it
admits. -/
theorem read_eq_ok_iff :
    c.read code action = .ok e ↔ e.category = c ∧ code = e.code ∧ e.Admits action := by
  cases c
  all_goals
    rw [read, InputEvent.map_eq_ok_iff]
    simp only [InputEvent.accessAction_eq_ok_iff, InputEvent.mouseAction_eq_ok_iff,
      InputEvent.keyAction_eq_ok_iff]
    cases e <;> simp [InputEvent.category, InputEvent.code, InputEvent.Admits,
      InputEvent.actionType?]

/-- The code is judged before the action type. -/
theorem read_eq_error_iff :
    c.read code action = .error err ↔
      (¬ c.HasCode code ∧ err = .code c code) ∨
      (c.HasCode code ∧ ¬ c.Takes code action ∧ err = .actionType action) := by
  cases c with
  | access => rw [read, InputEvent.map_eq_error_iff, InputEvent.accessAction_eq_error_iff]
  | mouse =>
      rw [read, InputEvent.map_eq_error_iff, InputEvent.mouseAction_eq_error_iff]
      simp [Takes]
  | key =>
      rw [read, InputEvent.map_eq_error_iff, InputEvent.keyAction_eq_error_iff]
      simp [Takes]

/-- Some event is read if the category has the code, and the code takes the action type. -/
theorem exists_read_eq_ok_iff :
    (∃ e, c.read code action = .ok e) ↔ c.HasCode code ∧ c.Takes code action := by
  simp only [InputEvent.exists_eq_ok_iff, ne_eq, read_eq_error_iff]
  grind

/-- One bit is not another. -/
theorem bits_injective {c d : EventCategory} (h : c.bits = d.bits) : c = d := by
  revert h
  cases c <;> cases d <;> decide

end EventCategory

/-! ### Words -/

namespace InputEvent

variable {raw action s t : UInt32} {c : EventCategory} {e : InputEvent} {err : EventError}

/-- The code of an event fits into the lower half of a word. -/
theorem code_lt (e : InputEvent) : e.code < 65536 := by
  rcases e with a | a | a <;> cases a <;>
    simp [code, AccessAction.code, MouseAction.code, KeyAction.code]

/-- The category of a word decides how its lower half is read. -/
theorem decode_eq (h : raw &&& 0xFFFF0000 = c.bits) :
    decode raw action = c.read (raw &&& 0xFFFF).toNat action := by
  rw [← ofUpperHalf?_eq_some_iff_bits] at h
  rw [decode, h, toNat_lowerHalf]
  cases c <;> rfl

/-- A word with the bit of no category, or with more than this bit, is refused as a whole. -/
theorem decode_eq_category (h : ∀ c : EventCategory, raw &&& 0xFFFF0000 ≠ c.bits) :
    decode raw action = .error (.category raw) := by
  have hnone : EventCategory.ofUpperHalf? (raw.toNat / 65536) = none :=
    Option.eq_none_iff_forall_ne_some.2 fun c hc => h c (ofUpperHalf?_eq_some_iff_bits.1 hc)
  rw [decode, hnone]

/-- A word has a category, or it has none and is refused for this. -/
theorem decode_cases (raw action : UInt32) :
    (∃ c : EventCategory, raw &&& 0xFFFF0000 = c.bits ∧
      decode raw action = c.read (raw &&& 0xFFFF).toNat action) ∨
    (∀ c : EventCategory, raw &&& 0xFFFF0000 ≠ c.bits) ∧
      decode raw action = .error (.category raw) := by
  by_cases hraw : ∃ c : EventCategory, raw &&& 0xFFFF0000 = c.bits
  · obtain ⟨c, hc⟩ := hraw
    exact .inl ⟨c, hc, decode_eq hc⟩
  · have hnone : ∀ c : EventCategory, raw &&& 0xFFFF0000 ≠ c.bits := fun c hc => hraw ⟨c, hc⟩
    exact .inr ⟨hnone, decode_eq_category hnone⟩

/-- The word of an event is read as this event if the action type is right. No other word is. -/
theorem decode_eq_ok_iff : decode raw action = .ok e ↔ raw = e.word ∧ e.Admits action := by
  constructor
  · intro h
    rcases decode_cases raw action with ⟨c, hc, hread⟩ | ⟨-, hnone⟩
    · rw [hread, EventCategory.read_eq_ok_iff] at h
      obtain ⟨rfl, hcode, hadmits⟩ := h
      refine ⟨eq_eventWord_of_halves hc ?_, hadmits⟩
      rw [← hcode, UInt32.ofNat_toNat]
    · rw [hnone] at h
      cases h
  · rintro ⟨rfl, hadmits⟩
    have hlt := e.code_lt
    have hcode : (UInt32.ofNat e.code).toNat % 65536 = e.code := by
      rw [UInt32.toNat_ofNat_of_lt' (Nat.lt_trans hlt (by decide)), Nat.mod_eq_of_lt hlt]
    rw [word, decode_eq (upperHalf_eventWord _ _), lowerHalf_eventWord, toNat_lowerHalf, hcode,
      EventCategory.read_eq_ok_iff]
    exact ⟨rfl, rfl, hadmits⟩

/-- The category is judged before the code, and the code before the action type. -/
theorem decode_eq_error_iff :
    decode raw action = .error err ↔
      ((∀ c : EventCategory, raw &&& 0xFFFF0000 ≠ c.bits) ∧ err = .category raw) ∨
      ∃ c : EventCategory, raw &&& 0xFFFF0000 = c.bits ∧
        ((¬ c.HasCode (raw &&& 0xFFFF).toNat ∧ err = .code c (raw &&& 0xFFFF).toNat) ∨
        (c.HasCode (raw &&& 0xFFFF).toNat ∧ ¬ c.Takes (raw &&& 0xFFFF).toNat action ∧
          err = .actionType action)) := by
  rcases decode_cases raw action with ⟨c, hc, hread⟩ | ⟨hnone, herror⟩
  · rw [hread, EventCategory.read_eq_error_iff]
    constructor
    · exact fun h => .inr ⟨c, hc, h⟩
    · rintro (⟨hnone, -⟩ | ⟨d, hd, h⟩)
      · exact absurd hc (hnone c)
      · obtain rfl := EventCategory.bits_injective (hc.symm.trans hd)
        exact h
  · rw [herror]
    simp [hnone, eq_comm]

/-- The words that are read are those with a category, a code of it and an action type that fits. -/
theorem exists_decode_eq_ok_iff :
    (∃ e, decode raw action = .ok e) ↔ ∃ c : EventCategory, raw &&& 0xFFFF0000 = c.bits ∧
      c.HasCode (raw &&& 0xFFFF).toNat ∧ c.Takes (raw &&& 0xFFFF).toNat action := by
  constructor
  · intro h
    rcases decode_cases raw action with ⟨c, hc, hread⟩ | ⟨-, herror⟩
    · rw [hread] at h
      exact ⟨c, hc, EventCategory.exists_read_eq_ok_iff.1 h⟩
    · rw [herror] at h
      obtain ⟨e, h⟩ := h
      cases h
  · rintro ⟨c, hc, h⟩
    rw [decode_eq hc]
    exact EventCategory.exists_read_eq_ok_iff.2 h

/-- What is made of a category and a code does not depend on what the code has above its lower
half. -/
theorem decode_eventWord (c : EventCategory) (s action : UInt32) :
    decode (eventWord c.bits s) action = c.read (s &&& 0xFFFF).toNat action := by
  rw [decode_eq (upperHalf_eventWord c s), lowerHalf_eventWord]

/-- A word is an event exactly if its upper half is the bit of one category, its lower half is a
code of this category, and the action type is one of those that go with a change of a value or with
scrolling, if the code stands for these. Otherwise it is refused for the first of these three that
fails. The word of an event is recovered from the event, so that no two words are read alike; and a
word that is made of a category and a code is an event of this category or none, whatever the code
has above its lower half. -/
theorem decode_exact :
    (∀ raw action : UInt32,
      ((∃ e, decode raw action = .ok e) ↔ ∃ c : EventCategory, raw &&& 0xFFFF0000 = c.bits ∧
        c.HasCode (raw &&& 0xFFFF).toNat ∧ c.Takes (raw &&& 0xFFFF).toNat action) ∧
      ∀ err, decode raw action = .error err ↔
        ((∀ c : EventCategory, raw &&& 0xFFFF0000 ≠ c.bits) ∧ err = .category raw) ∨
        ∃ c : EventCategory, raw &&& 0xFFFF0000 = c.bits ∧
          ((¬ c.HasCode (raw &&& 0xFFFF).toNat ∧ err = .code c (raw &&& 0xFFFF).toNat) ∨
          (c.HasCode (raw &&& 0xFFFF).toNat ∧ ¬ c.Takes (raw &&& 0xFFFF).toNat action ∧
            err = .actionType action))) ∧
    (∀ raw action e, decode raw action = .ok e ↔ raw = e.word ∧ e.Admits action) ∧
    (∀ r₁ a₁ r₂ a₂ e, decode r₁ a₁ = .ok e → decode r₂ a₂ = .ok e → r₁ = r₂) ∧
    ∀ (c : EventCategory) (s action : UInt32),
      (∀ t, s &&& 0xFFFF = t &&& 0xFFFF →
        decode (eventWord c.bits s) action = decode (eventWord c.bits t) action) ∧
      ∀ e, decode (eventWord c.bits s) action = .ok e → e.category = c := by
  refine ⟨fun raw action => ⟨exists_decode_eq_ok_iff, fun err => decode_eq_error_iff⟩,
    fun raw action e => decode_eq_ok_iff, fun r₁ a₁ r₂ a₂ e h₁ h₂ => ?_,
    fun c s action => ⟨fun t hst => ?_, fun e he => ?_⟩⟩
  · rw [(decode_eq_ok_iff.1 h₁).1, (decode_eq_ok_iff.1 h₂).1]
  · rw [decode_eventWord, decode_eventWord, hst]
  · rw [decode_eventWord, EventCategory.read_eq_ok_iff] at he
    exact he.1

/-- A change of a value does not go in the direction of the second action type. -/
example : decode 0x01000006 2 = .ok (.access (.action .increase)) ∧
    decode 0x01000006 1 = .error (.actionType 1) ∧
    decode 0x01000007 1 = .ok (.access (.scroll .move)) :=
  ⟨rfl, rfl, rfl⟩

end InputEvent

end WidgetStage
