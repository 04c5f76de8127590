import Chip8.Terminal.Keyboard

set_option autoImplicit false

/-!
How long typed keys are held. A desk is a keyboard with the keypad that it drives and the events
that wait for the next poll. Its log has one entry for each turn: the events that a poll took, or
the key that was taken from the keypad. The polls for which a key is still held are counted from
the latest press in the log, and a key that was taken since is up although it is still held
(`Tracks`).

Main statement: `held_six_polls`.
-/

namespace Chip8

/-! ### Keypads -/

namespace Keypad

/-- The keypad behind a wish for a key: the lowest key that was down is up. -/
def afterTake (keypad : Keypad) : Keypad :=
  (keypad.take?.map Prod.snd).getD keypad

theorem map_fst_take? (keypad : Keypad) : keypad.take?.map Prod.fst = keypad.lowest? := by
  rw [take?, Option.map_map]
  exact congrFun Option.map_id _

theorem isDown_afterTake (keypad : Keypad) (key : Key) :
    keypad.afterTake.isDown key = (keypad.isDown key && !decide (keypad.lowest? = some key)) := by
  unfold afterTake take?
  cases found : keypad.lowest? with
  | none => simp
  | some lowest => simp [isDown_release, Bool.and_comm]

end Keypad

namespace Terminal

/-! ### Presses -/

/-- The characters of the keys, from 0 to F. -/
def layout : Vector Char 16 :=
  #v['x', '1', '2', '3', 'q', 'w', 'e', 'a', 's', 'd', 'z', 'c', '4', 'r', 'f', 'v']

theorem keyOf?_eq_some_iff (typed : Char) (key : Key) :
    keyOf? typed = some key ↔ layout.get key = typed.toLower := by
  constructor
  · intro found
    unfold keyOf? at found
    split at found
    case h_17 => cases found
    all_goals
      rename_i letter
      cases found
      rw [letter]
      rfl
  · intro same
    rw [keyOf?, ← same]
    clear same
    revert key
    decide

namespace KeyEvent

/-- The event is a character of the key, small or capital. -/
def Presses (key : Key) : KeyEvent → Prop
  | .character typed => layout.get key = typed.toLower
  | _ => False

/-- The event ends the poll that takes it. -/
def ends : KeyEvent → Bool
  | .escape | .failure _ => true
  | _ => false

instance (key : Key) (event : KeyEvent) : Decidable (event.Presses key) := by
  cases event <;> unfold Presses <;> infer_instance

end KeyEvent

/-- The events that a poll takes: all up to the first one that ends it. -/
def taken : List KeyEvent → List KeyEvent
  | [] => []
  | event :: rest => if event.ends then [event] else event :: taken rest

/-- The events that a poll leaves for the next. -/
def left : List KeyEvent → List KeyEvent
  | [] => []
  | event :: rest => if event.ends then rest else left rest

theorem taken_append_left (events : List KeyEvent) : taken events ++ left events = events := by
  induction events with
  | nil => rfl
  | cons event rest ih =>
      rw [taken, left]
      split
      · rfl
      · rw [List.cons_append, ih]

/-- A poll of these events takes a press of the key. -/
def PressedIn (key : Key) (events : List KeyEvent) : Prop :=
  ∃ event ∈ taken events, event.Presses key

instance (key : Key) (events : List KeyEvent) : Decidable (PressedIn key events) :=
  inferInstanceAs (Decidable (∃ event ∈ taken events, event.Presses key))

theorem not_pressedIn_nil (key : Key) : ¬PressedIn key [] := by
  rintro ⟨event, member, _⟩
  exact List.not_mem_nil member

theorem pressedIn_cons_iff (key : Key) (event : KeyEvent) (rest : List KeyEvent) :
    PressedIn key (event :: rest) ↔
      event.Presses key ∨ event.ends = false ∧ PressedIn key rest := by
  unfold PressedIn
  rw [taken]
  cases event.ends with
  | true => simp
  | false => simp

/-! ### Polls -/

namespace Keyboard

/-- For how many polls a key is still held. -/
def heldFor (keyboard : Keyboard) (key : Key) : Nat :=
  keyboard.held.get key

theorem heldFor_idle (key : Key) : idle.heldFor key = 0 := by
  change (Vector.replicate 16 0)[key] = 0
  simp

theorem heldFor_hold (keyboard : Keyboard) (pressed key : Key) :
    (keyboard.hold pressed).heldFor key =
      if key = pressed then holdLength else keyboard.heldFor key := by
  change (Vector.ofFn fun other =>
    if other = pressed then holdLength else keyboard.held.get other)[key] = _
  simp [heldFor]

theorem heldFor_countDown (keyboard : Keyboard) (key : Key) :
    keyboard.countDown.heldFor key = keyboard.heldFor key - 1 := by
  change (keyboard.held.map fun polls => polls - 1)[key] = keyboard.held[key] - 1
  simp

/-- A key goes up whose hold ends. -/
theorem isDown_releaseExpired (keyboard : Keyboard) (keypad : Keypad) (key : Key) :
    (keyboard.releaseExpired keypad).isDown key =
      (keypad.isDown key && !decide (keyboard.heldFor key = 1)) := by
  have released (keys : List Key) (before : Keypad) :
      (keys.foldl (fun keypad key =>
          if keyboard.held.get key = 1 then keypad.release key else keypad) before).isDown key =
        (before.isDown key && !decide (key ∈ keys ∧ keyboard.heldFor key = 1)) := by
    induction keys generalizing before with
    | nil => simp
    | cons other rest ih =>
        rw [List.foldl_cons, ih]
        by_cases same : key = other
        · subst same
          by_cases expires : keyboard.held.get key = 1 <;>
            simp [heldFor, expires, Keypad.isDown_release]
        · by_cases expires : keyboard.held.get other = 1 <;>
            simp [expires, same, Ne.symm same, Keypad.isDown_release]
  rw [releaseExpired, released]
  simp

section Taking

variable (keyboard : Keyboard) (keypad : Keypad) (events : List KeyEvent) (key : Key)

theorem waiting_takeEvents : (keyboard.takeEvents keypad events).waiting = left events := by
  induction events generalizing keyboard keypad with
  | nil => rfl
  | cons event rest ih =>
      cases event with
      | escape => rfl
      | failure text => rfl
      | other => exact ih keyboard keypad
      | character typed =>
          rw [takeEvents]
          split
          · exact ih keyboard keypad
          · exact ih _ _

/-- A poll holds the keys of which it takes a press, and presses them. -/
theorem takeEvents_key :
    (keyboard.takeEvents keypad events).keyboard.heldFor key =
        (if PressedIn key events then holdLength else keyboard.heldFor key) ∧
      (keyboard.takeEvents keypad events).keypad.isDown key =
        (decide (PressedIn key events) || keypad.isDown key) := by
  induction events generalizing keyboard keypad with
  | nil => simp [takeEvents, not_pressedIn_nil]
  | cons event rest ih =>
      simp only [pressedIn_cons_iff]
      cases event with
      | escape => simp [takeEvents, KeyEvent.Presses, KeyEvent.ends]
      | failure text => simp [takeEvents, KeyEvent.Presses, KeyEvent.ends]
      | other => simpa [takeEvents, KeyEvent.Presses, KeyEvent.ends] using ih keyboard keypad
      | character typed =>
          have mapped (other : Key) :
              (KeyEvent.character typed).Presses other ↔ keyOf? typed = some other :=
            (keyOf?_eq_some_iff typed other).symm
          rw [takeEvents]
          cases found : keyOf? typed with
          | none => simpa [mapped, found, KeyEvent.ends] using ih keyboard keypad
          | some pressed =>
              obtain ⟨held, down⟩ := ih (keyboard.hold pressed) (keypad.press pressed)
              simp only [mapped, found, Option.some.injEq, KeyEvent.ends, true_and]
              rw [held, down, heldFor_hold, Keypad.isDown_press]
              constructor
              · grind
              · grind

end Taking

/-- What a poll does to a key: a press holds it anew, and without one its hold gets shorter and ends
with the key up. -/
theorem poll_key (keyboard : Keyboard) (keypad : Keypad) (events : List KeyEvent) (key : Key) :
    (keyboard.poll keypad events).keyboard.heldFor key =
        (if PressedIn key events then holdLength else keyboard.heldFor key - 1) ∧
      (keyboard.poll keypad events).keypad.isDown key =
        (decide (PressedIn key events) ||
          keypad.isDown key && !decide (keyboard.heldFor key = 1)) := by
  rw [← heldFor_countDown, ← isDown_releaseExpired]
  exact takeEvents_key keyboard.countDown (keyboard.releaseExpired keypad) events key

end Keyboard

/-! ### Desks -/

/-- What comes up at a desk: a poll, with the events that have arrived for it, or a wish for a key
that is down. -/
inductive Turn where
  | poll (arrived : List KeyEvent)
  | take

def Turn.arrived : Turn → List KeyEvent
  | .poll arrived => arrived
  | .take => []

/-- What a turn has done: the events that a poll took, or the key that was taken if one was down. -/
inductive Entry where
  | polled (taken : List KeyEvent)
  | took (key : Option Key)

namespace Entry

def Presses (key : Key) : Entry → Prop
  | .polled taken => ∃ event ∈ taken, event.Presses key
  | .took _ => False

instance (key : Key) (entry : Entry) : Decidable (entry.Presses key) := by
  cases entry <;> unfold Presses <;> infer_instance

def Takes (key : Key) : Entry → Prop
  | .polled _ => False
  | .took taken => taken = some key

def isPoll : Entry → Bool
  | .polled _ => true
  | .took _ => false

def events : Entry → List KeyEvent
  | .polled taken => taken
  | .took _ => []

end Entry

/-- The latest press of the key was taken by the last poll of a log or one of the five before it,
and the key was not taken since. -/
def HeldBy (key : Key) (log : List Entry) : Prop :=
  ∃ before press since, log = before ++ press :: since ∧ press.Presses key ∧
    (∀ entry ∈ since, ¬entry.Presses key ∧ ¬entry.Takes key) ∧ since.countP Entry.isPoll ≤ 5

structure Desk where
  keyboard : Keyboard
  keypad : Keypad
  waiting : List KeyEvent

namespace Desk

def start : Desk :=
  ⟨.idle, .idle, []⟩

def turn (desk : Desk) : Turn → Desk
  | .poll arrived =>
      let polled := desk.keyboard.poll desk.keypad (desk.waiting ++ arrived)
      ⟨polled.keyboard, polled.keypad, polled.waiting⟩
  | .take => { desk with keypad := desk.keypad.afterTake }

def entry (desk : Desk) : Turn → Entry
  | .poll arrived => .polled (taken (desk.waiting ++ arrived))
  | .take => .took (desk.keypad.take?.map Prod.fst)

def turnAll (desk : Desk) : List Turn → Desk
  | [] => desk
  | first :: rest => (desk.turn first).turnAll rest

def log (desk : Desk) : List Turn → List Entry
  | [] => []
  | first :: rest => desk.entry first :: (desk.turn first).log rest

end Desk

/-! ### The latest press -/

/-- The entries behind the latest press of a key; none if there was no press. -/
def sinceLast (key : Key) : List Entry → Option (List Entry)
  | [] => none
  | entry :: rest => (sinceLast key rest).or (if entry.Presses key then some rest else none)

theorem sinceLast_eq_none_iff (key : Key) (log : List Entry) :
    sinceLast key log = none ↔ ∀ entry ∈ log, ¬entry.Presses key := by
  induction log with
  | nil => simp [sinceLast]
  | cons entry rest ih => simp [sinceLast, ih, and_comm]

theorem sinceLast_eq_some_iff (key : Key) (log since : List Entry) :
    sinceLast key log = some since ↔
      ∃ before press, log = before ++ press :: since ∧ press.Presses key ∧
        ∀ entry ∈ since, ¬entry.Presses key := by
  induction log with
  | nil => simp [sinceLast]
  | cons entry rest ih =>
      rw [sinceLast, Option.or_eq_some_iff, ih, sinceLast_eq_none_iff]
      constructor
      · rintro (⟨before, press, cut, presses, none⟩ | ⟨none, found⟩)
        · exact ⟨entry :: before, press, congrArg (entry :: ·) cut, presses, none⟩
        · obtain ⟨presses, same⟩ := Option.ite_none_right_eq_some.mp found
          cases same
          exact ⟨[], entry, rfl, presses, none⟩
      · rintro ⟨before, press, cut, presses, none⟩
        rcases List.cons_eq_append_iff.mp cut with ⟨rfl, first⟩ | ⟨earlier, rfl, later⟩
        · cases first
          exact .inr ⟨none, if_pos presses⟩
        · exact .inl ⟨earlier, press, later, presses, none⟩

theorem sinceLast_concat (key : Key) (log : List Entry) (entry : Entry) :
    sinceLast key (log ++ [entry]) =
      if entry.Presses key then some [] else (sinceLast key log).map (· ++ [entry]) := by
  induction log with
  | nil => simp [sinceLast]
  | cons first rest ih =>
      rw [List.cons_append, sinceLast, ih, sinceLast]
      by_cases presses : entry.Presses key
      · simp [presses]
      · cases sinceLast key rest <;> by_cases firstPresses : first.Presses key <;>
          simp [presses, firstPresses]

theorem heldBy_iff (key : Key) (log : List Entry) :
    HeldBy key log ↔
      ∃ since, sinceLast key log = some since ∧ (∀ entry ∈ since, ¬entry.Takes key) ∧
        since.countP Entry.isPoll ≤ 5 := by
  simp only [sinceLast_eq_some_iff]
  constructor
  · rintro ⟨before, press, since, cut, presses, none, polls⟩
    exact ⟨since, ⟨before, press, cut, presses, fun entry member => (none entry member).1⟩,
      fun entry member => (none entry member).2, polls⟩
  · rintro ⟨since, ⟨before, press, cut, presses, none⟩, untaken, polls⟩
    exact ⟨before, press, since, cut, presses,
      fun entry member => ⟨none entry member, untaken entry member⟩, polls⟩

/-- What a desk has of a key fits the log: the key is held for as many polls as are left of six
since its latest press, and it is down while it is held unless it was taken since. -/
structure Tracks (key : Key) (desk : Desk) (log : List Entry) : Prop where
  held : desk.keyboard.heldFor key =
    ((sinceLast key log).map fun since => 6 - since.countP Entry.isPoll).getD 0
  down : desk.keypad.isDown key = true ↔
    ∃ since, sinceLast key log = some since ∧ (∀ entry ∈ since, ¬entry.Takes key) ∧
      since.countP Entry.isPoll ≤ 5

namespace Tracks

variable {key : Key} {desk : Desk} {log : List Entry}

theorem start (key : Key) : Tracks key .start [] := by
  refine ⟨Keyboard.heldFor_idle key, ?_⟩
  simp [Desk.start, Keypad.isDown_idle, sinceLast]

/-- Without a press the entries behind the latest one have one more. -/
theorem of_not_presses {after : Desk} {entry : Entry} (tracks : Tracks key desk log)
    (none : ¬entry.Presses key)
    (held : after.keyboard.heldFor key = desk.keyboard.heldFor key - entry.isPoll.toNat)
    (down : after.keypad.isDown key = true ↔ desk.keypad.isDown key = true ∧
      ¬entry.Takes key ∧ (entry.isPoll = true → desk.keyboard.heldFor key ≠ 1)) :
    Tracks key after (log ++ [entry]) := by
  have last : sinceLast key (log ++ [entry]) = (sinceLast key log).map (· ++ [entry]) := by
    rw [sinceLast_concat, if_neg none]
  cases found : sinceLast key log with
  | none =>
      rw [found, Option.map_none] at last
      have up : ¬desk.keypad.isDown key = true := by
        simp [tracks.down, found]
      refine ⟨?_, ?_⟩
      · rw [held, tracks.held, found, last]
        exact Nat.zero_sub _
      · simp [down, up, last]
  | some since =>
      rw [found, Option.map_some] at last
      have polls : (since ++ [entry]).countP Entry.isPoll =
          since.countP Entry.isPoll + entry.isPoll.toNat := by
        rw [List.countP_append, List.countP_singleton]
        cases entry.isPoll <;> rfl
      have counted : (since.countP Entry.isPoll ≤ 5 ∧
            (entry.isPoll = true → 6 - since.countP Entry.isPoll ≠ 1)) ↔
          since.countP Entry.isPoll + entry.isPoll.toNat ≤ 5 := by
        cases entry.isPoll with
        | false => simp
        | true =>
            simp only [true_implies, Bool.toNat_true]
            omega
      have heldBefore : desk.keyboard.heldFor key = 6 - since.countP Entry.isPoll := by
        rw [tracks.held, found]
        rfl
      refine ⟨?_, ?_⟩
      · rw [held, heldBefore, last, Option.map_some, Option.getD_some, polls, Nat.sub_sub]
      · rw [down, tracks.down, found, last]
        simp only [Option.some.injEq, exists_eq_left', polls, List.forall_mem_append,
          List.forall_mem_singleton, heldBefore, ← counted]
        grind

theorem poll (tracks : Tracks key desk log) (arrived : List KeyEvent) :
    Tracks key (desk.turn (.poll arrived)) (log ++ [desk.entry (.poll arrived)]) := by
  obtain ⟨held, down⟩ := desk.keyboard.poll_key desk.keypad (desk.waiting ++ arrived) key
  by_cases pressed : PressedIn key (desk.waiting ++ arrived)
  · have last : sinceLast key (log ++ [desk.entry (.poll arrived)]) = some [] := by
      rw [sinceLast_concat]
      exact if_pos pressed
    rw [if_pos pressed] at held
    rw [decide_eq_true pressed, Bool.true_or] at down
    refine ⟨?_, ?_⟩
    · rw [last]
      exact held
    · rw [last]
      refine iff_of_true down ⟨[], rfl, ?_, Nat.zero_le 5⟩
      exact fun _ member => absurd member List.not_mem_nil
  · rw [if_neg pressed] at held
    rw [decide_eq_false pressed, Bool.false_or] at down
    refine tracks.of_not_presses pressed held ?_
    rw [Desk.turn, down]
    simp [Desk.entry, Entry.Takes, Entry.isPoll]

theorem take (tracks : Tracks key desk log) :
    Tracks key (desk.turn .take) (log ++ [desk.entry .take]) := by
  refine tracks.of_not_presses id rfl ?_
  rw [Desk.turn, Desk.entry, Keypad.map_fst_take?]
  simp [Keypad.isDown_afterTake, Entry.Takes, Entry.isPoll]

theorem turnAll (tracks : Tracks key desk log) (turns : List Turn) :
    Tracks key (desk.turnAll turns) (log ++ desk.log turns) := by
  induction turns generalizing desk log with
  | nil =>
      rw [Desk.log, List.append_nil]
      exact tracks
  | cons turn rest ih =>
      rw [Desk.log, List.append_cons]
      cases turn with
      | poll arrived => exact ih (tracks.poll arrived)
      | take => exact ih tracks.take

end Tracks

/-- Every event that has arrived was taken by a poll in its turn or still waits. -/
theorem Desk.log_events (desk : Desk) (turns : List Turn) :
    (desk.log turns).flatMap Entry.events ++ (desk.turnAll turns).waiting =
      desk.waiting ++ turns.flatMap Turn.arrived := by
  induction turns generalizing desk with
  | nil => simp [log, turnAll]
  | cons turn rest ih =>
      rw [log, turnAll, List.flatMap_cons, List.flatMap_cons, List.append_assoc, ih]
      cases turn with
      | poll arrived =>
          have waiting : (desk.turn (.poll arrived)).waiting = left (desk.waiting ++ arrived) :=
            Keyboard.waiting_takeEvents _ _ _
          rw [waiting, ← List.append_assoc, ← List.append_assoc]
          exact congrArg (· ++ _) (taken_append_left _)
      | take => rfl

/-- Typed keys are held for exactly six polls. Whatever events arrive for the polls, and whenever
keys are taken from the keypad in between, a key is down behind a turn just if its latest press was
taken by the last poll or one of the five before it and it was not taken since; this is so also
behind polls that quit or fail. No event is lost: each was taken by a poll in its turn or still
waits. -/
theorem held_six_polls (turns : List Turn) (key : Key) :
    ((Desk.start.turnAll turns).keypad.isDown key = true ↔ HeldBy key (Desk.start.log turns)) ∧
      (Desk.start.log turns).flatMap Entry.events ++ (Desk.start.turnAll turns).waiting =
        turns.flatMap Turn.arrived := by
  have tracks : Tracks key (Desk.start.turnAll turns) ([] ++ Desk.start.log turns) :=
    (Tracks.start key).turnAll turns
  exact ⟨tracks.down.trans (heldBy_iff key _).symm, Desk.start.log_events turns⟩

/-- The second press is left over by the first poll, which ends with the escape key. -/
example :
    let turns (polls : Nat) : List Turn :=
      .poll [.character 'Q', .escape, .character 'v'] :: List.replicate polls (.poll [])
    (Desk.start.turnAll (turns 5)).keypad.pressed = [4, 15] ∧
      (Desk.start.turnAll (turns 6)).keypad.pressed = [15] ∧
      (Desk.start.turnAll (turns 7)).keypad.pressed = [] := by
  decide +kernel

end Terminal
end Chip8
