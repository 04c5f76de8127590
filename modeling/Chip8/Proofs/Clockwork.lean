import Chip8.Proofs.Course

set_option autoImplicit false

/-!
The pacer as a computer holds it: spans of time in seconds and nanoseconds, products of a hundred
and twenty-eight bits, and a loop that goes from refresh to refresh. A sum or a product that leaves
its width, a difference below zero and a pass of the loop that takes no time have no result, and
neither has anything that would need them.

Main statement: a stretch of time that fits has a result, and it is the pacer's (`Shows.tick?`).
-/

namespace Chip8

/-! ### Sums and differences that can fail -/

/-- The first span of time that a number of seconds in sixty-four bits cannot hold. -/
def spanLimit : Nat := 18446744073709551616000000000

/-- The first number that a hundred and twenty-eight bits cannot hold. -/
def wideLimit : Nat := 340282366920938463463374607431768211456

/-- The first number of refreshes that a report cannot hold. -/
def framesLimit : Nat := 4294967296

def within? (limit value : Nat) : Option Nat :=
  if value < limit then some value else none

def minus? (left right : Nat) : Option Nat :=
  if right ≤ left then some (left - right) else none

theorem within?_eq {limit value : Nat} (fits : value < limit) : within? limit value = some value :=
  if_pos fits

theorem minus?_eq {left right : Nat} (fits : right ≤ left) :
    minus? left right = some (left - right) :=
  if_pos fits

/-! ### The clockwork -/

structure Clockwork where
  rate : UInt32
  state : RunState
  clock : Nat
  sinceRefresh : Nat
  granted : Nat

namespace Clockwork

def ofRate (rate : UInt32) : Clockwork where
  rate := max rate 1
  state := .running
  clock := 0
  sinceRefresh := 0
  granted := 0

/-- Counts the slots up to now, and tells how many have come up since the last count. -/
def grant? (clockwork : Clockwork) : Option (Clockwork × Nat) := do
  let product ← within? wideLimit (clockwork.clock * clockwork.rate.toNat)
  let rounded ← within? wideLimit (product + 500000000)
  let due ← minus? (rounded / 1000000000) clockwork.granted
  return ({ clockwork with granted := rounded / 1000000000 }, due)

/-- Takes the next slice off the time that remains: up to the next refresh, or all of it. -/
def slice? (clockwork : Clockwork) (remaining : Nat) : Option (Clockwork × Nat) := do
  let room ← minus? refreshInterval clockwork.sinceRefresh
  let slice := min remaining room
  let left ← minus? remaining slice
  let clock ← within? spanLimit (clockwork.clock + slice)
  let sinceRefresh ← within? spanLimit (clockwork.sinceRefresh + slice)
  return ({ clockwork with clock := clock, sinceRefresh := sinceRefresh }, left)

/-- Takes a slice and counts its slots: the clockwork, the slots, and the time that is left. -/
def count? (clockwork : Clockwork) (remaining : Nat) : Option (Clockwork × Nat × Nat) := do
  let (sliced, left) ← clockwork.slice? remaining
  let (counted, due) ← sliced.grant?
  return (counted, due, left)

/-- Where a machine stands in a stretch of time: a report goes on, a fault ends the stretch. -/
structure Passage where
  clockwork : Clockwork
  machine : Machine
  result : Except Fault Report
  remaining : Nat

/-- One slice of time: its slots, and the refresh if it reaches one. -/
def pass? (clockwork : Clockwork) (machine : Machine) (report : Report) (remaining : Nat) :
    Option Passage := do
  let (counted, due, left) ← clockwork.count? remaining
  match Run.useSlots due ⟨counted.state, machine, report⟩ with
  | (run, some fault) =>
      return ⟨{ counted with state := run.state }, run.machine, .error fault, left⟩
  | (run, none) =>
      if refreshInterval ≤ counted.sinceRefresh then
        let _ ← run.refresh.report.frames.number?
        return ⟨{ counted with state := run.refresh.state, sinceRefresh := 0 },
          run.refresh.machine, .ok run.refresh.report, left⟩
      else return ⟨{ counted with state := run.state }, run.machine, .ok run.report, left⟩

/-- Lets time go by, slice by slice. A slice that takes no time would go on for ever. -/
def tick? (clockwork : Clockwork) (machine : Machine) (report : Report) (remaining : Nat) :
    Option (Clockwork × Machine × Except Fault Report) :=
  if clockwork.state = .halted ∨ remaining = 0 then some (clockwork, machine, .ok report)
  else
    match clockwork.pass? machine report remaining with
    | none => none
    | some ⟨later, machine, .error fault, _⟩ => some (later, machine, .error fault)
    | some ⟨later, machine, .ok report, left⟩ =>
        if left < remaining then later.tick? machine report left else none
termination_by remaining

/-! ### The clockwork and the pacer -/

/-- The clockwork shows what the pacer knows. What it shows about the last refresh of a halted
machine is never read again. -/
structure Shows (clockwork : Clockwork) (pacer : Pacer) : Prop where
  rate : clockwork.rate = pacer.rate
  state : clockwork.state = pacer.state
  clock : clockwork.clock = pacer.clock
  granted : clockwork.granted = pacer.granted
  sinceRefresh : pacer.state ≠ .halted → clockwork.sinceRefresh = pacer.sinceRefresh.val

theorem shows_ofRate (rate : UInt32) : (ofRate rate).Shows (Pacer.ofRate rate) :=
  ⟨rfl, rfl, rfl, rfl, fun _ => rfl⟩

/-- A hundred and twenty-eight bits are enough for any span of time at any rate. -/
theorem product_lt {clock : Nat} (fits : clock < spanLimit) (rate : UInt32) :
    clock * rate.toNat + 500000000 < wideLimit := by
  have narrow : rate.toNat ≤ 4294967295 := by
    have below := rate.toNat_lt
    omega
  have product := Nat.mul_le_mul (Nat.le_of_lt fits) narrow
  have room : spanLimit * 4294967295 + 500000000 < wideLimit := by decide
  exact Nat.lt_of_le_of_lt (Nat.add_le_add_right product _) room

theorem grant?_eq (clockwork : Clockwork) (fits : clockwork.clock < spanLimit)
    (notBehind : clockwork.granted ≤ Pacer.slotsBy clockwork.rate clockwork.clock) :
    clockwork.grant? =
      some ({ clockwork with granted := Pacer.slotsBy clockwork.rate clockwork.clock },
        Pacer.slotsBy clockwork.rate clockwork.clock - clockwork.granted) := by
  have wide := product_lt fits clockwork.rate
  have product := within?_eq (Nat.lt_of_le_of_lt (Nat.le_add_right _ _) wide)
  have target : (clockwork.clock * clockwork.rate.toNat + 500000000) / 1000000000 =
      Pacer.slotsBy clockwork.rate clockwork.clock := by
    rw [Pacer.slotsBy, Nat.add_comm]
  rw [grant?, product, Option.bind_eq_bind, Option.bind_some, within?_eq wide, Option.bind_some,
    target, minus?_eq notBehind, Option.bind_some]
  rfl

namespace Shows

variable {clockwork : Clockwork} {pacer : Pacer} {machine : Machine} {report : Report}
variable {remaining : Nat}

theorem slice?_eq (shows : clockwork.Shows pacer) (runs : pacer.state ≠ .halted)
    (fits : pacer.clock + remaining < spanLimit) :
    clockwork.slice? remaining =
      some ({ clockwork with
          clock := pacer.clock + min remaining pacer.untilRefresh
          sinceRefresh := pacer.sinceRefresh.val + min remaining pacer.untilRefresh },
        remaining - min remaining pacer.untilRefresh) := by
  have inside := Nat.le_of_lt pacer.sinceRefresh.isLt
  have shorter : min remaining pacer.untilRefresh ≤ remaining := Nat.min_le_left _ _
  have clockFits : pacer.clock + min remaining pacer.untilRefresh < spanLimit :=
    Nat.lt_of_le_of_lt (Nat.add_le_add_left shorter _) fits
  have sliceFits : pacer.sinceRefresh.val + min remaining pacer.untilRefresh < spanLimit := by
    have upTo : pacer.sinceRefresh.val + min remaining pacer.untilRefresh ≤ refreshInterval := by
      have whole := pacer.sinceRefresh_add_untilRefresh
      omega
    exact Nat.lt_of_le_of_lt upTo (by decide)
  rw [slice?, shows.sinceRefresh runs, shows.clock, minus?_eq inside, Option.bind_eq_bind,
    Option.bind_some, ← Pacer.untilRefresh]
  dsimp only
  rw [minus?_eq shorter, Option.bind_some, within?_eq clockFits, Option.bind_some,
    within?_eq sliceFits, Option.bind_some]
  rfl

theorem count?_eq (shows : clockwork.Shows pacer) (runs : pacer.state ≠ .halted)
    (onTime : pacer.OnTime) (fits : pacer.clock + remaining < spanLimit) {slice : Nat}
    (sliced : slice = min remaining pacer.untilRefresh) :
    clockwork.count? remaining =
      some (⟨pacer.rate, pacer.state, pacer.clock + slice, pacer.sinceRefresh.val + slice,
          Pacer.slotsBy pacer.rate (pacer.clock + slice)⟩,
        pacer.slotsIn slice, remaining - slice) := by
  have clockFits : pacer.clock + slice < spanLimit :=
    Nat.lt_of_le_of_lt (Nat.add_le_add_left (by omega) _) fits
  have notBehind : pacer.granted ≤ Pacer.slotsBy pacer.rate (pacer.clock + slice) := by
    rw [onTime]
    exact Pacer.slotsBy_mono _ (Nat.le_add_right _ _)
  rw [count?, shows.slice?_eq runs fits, ← sliced, Option.bind_eq_bind, Option.bind_some,
    shows.rate, shows.state, shows.granted]
  dsimp only
  rw [grant?_eq _ clockFits notBehind, Option.bind_some]
  rfl

theorem pass?_failed (shows : clockwork.Shows pacer) (runs : pacer.state ≠ .halted)
    (onTime : pacer.OnTime) (fits : pacer.clock + remaining < spanLimit) {slice : Nat}
    (sliced : slice = min remaining pacer.untilRefresh) {run : Run} {fault : Fault}
    (ran : pacer.runFor slice machine report = (run, some fault)) :
    ∃ later : Clockwork, later.Shows (pacer.advance slice run.state) ∧
      clockwork.pass? machine report remaining =
        some ⟨later, run.machine, .error fault, remaining - slice⟩ := by
  have halted := Run.halted_of_fault ran
  rw [Pacer.runFor] at ran
  refine ⟨⟨pacer.rate, run.state, pacer.clock + slice, pacer.sinceRefresh.val + slice,
    Pacer.slotsBy pacer.rate (pacer.clock + slice)⟩,
    ⟨rfl, rfl, rfl, rfl, fun going => absurd halted going⟩, ?_⟩
  rw [pass?, shows.count?_eq runs onTime fits sliced, Option.bind_eq_bind, Option.bind_some]
  dsimp only
  rw [ran]
  rfl

theorem pass?_short (shows : clockwork.Shows pacer) (runs : pacer.state ≠ .halted)
    (onTime : pacer.OnTime) (fits : pacer.clock + remaining < spanLimit)
    (short : remaining < pacer.untilRefresh) {run : Run}
    (ran : pacer.runFor remaining machine report = (run, none)) :
    ∃ later : Clockwork, later.Shows (pacer.advance remaining run.state) ∧
      clockwork.pass? machine report remaining =
        some ⟨later, run.machine, .ok run.report, 0⟩ := by
  have sliced : remaining = min remaining pacer.untilRefresh := by omega
  have before : ¬ refreshInterval ≤ pacer.sinceRefresh.val + remaining := by
    have whole := pacer.sinceRefresh_add_untilRefresh
    omega
  rw [Pacer.runFor] at ran
  refine ⟨⟨pacer.rate, run.state, pacer.clock + remaining, pacer.sinceRefresh.val + remaining,
    Pacer.slotsBy pacer.rate (pacer.clock + remaining)⟩,
    ⟨rfl, rfl, rfl, rfl, fun _ => (Pacer.sinceRefresh_advance_short pacer run.state short).symm⟩,
    ?_⟩
  rw [pass?, shows.count?_eq runs onTime fits sliced, Option.bind_eq_bind, Option.bind_some]
  dsimp only
  rw [ran, Nat.sub_self]
  dsimp only
  rw [if_neg before]
  rfl

theorem pass?_refresh {more : Nat} (shows : clockwork.Shows pacer) (runs : pacer.state ≠ .halted)
    (onTime : pacer.OnTime) (fits : pacer.clock + (pacer.untilRefresh + more) < spanLimit)
    {run : Run} (ran : pacer.runFor pacer.untilRefresh machine report = (run, none))
    {frames : Nat} (counted : run.report.frames = .ofNat frames) (few : frames + 1 < framesLimit) :
    ∃ later : Clockwork, later.Shows (pacer.advance pacer.untilRefresh run.refresh.state) ∧
      clockwork.pass? machine report (pacer.untilRefresh + more) =
        some ⟨later, run.refresh.machine, .ok run.refresh.report, more⟩ := by
  have sliced : pacer.untilRefresh = min (pacer.untilRefresh + more) pacer.untilRefresh := by omega
  have whole := pacer.sinceRefresh_add_untilRefresh
  have sinceRefresh : (pacer.advance pacer.untilRefresh run.refresh.state).sinceRefresh.val = 0 := by
    rw [Pacer.sinceRefresh_advance, whole, Nat.mod_self]
  have kept : run.refresh.report.frames.number? = some (frames + 1) := by
    rw [Pacer.Passes.frames_refresh, counted, ← Counter.ofNat_add]
    exact Counter.number?_ofNat few
  rw [Pacer.runFor] at ran
  refine ⟨⟨pacer.rate, run.refresh.state, pacer.clock + pacer.untilRefresh, 0,
    Pacer.slotsBy pacer.rate (pacer.clock + pacer.untilRefresh)⟩,
    ⟨rfl, rfl, rfl, rfl, fun _ => sinceRefresh.symm⟩, ?_⟩
  rw [pass?, shows.count?_eq runs onTime fits sliced, Option.bind_eq_bind, Option.bind_some]
  dsimp only
  rw [ran, whole, Nat.add_sub_cancel_left]
  dsimp only
  rw [if_pos (Nat.le_refl _), kept, Option.bind_eq_bind, Option.bind_some]
  rfl

theorem tick?_of_stopped (shows : clockwork.Shows pacer)
    (stopped : pacer.state = .halted ∨ remaining = 0) :
    clockwork.tick? machine report remaining = some (clockwork, machine, .ok report) := by
  rw [← shows.state] at stopped
  rw [tick?, if_pos stopped]

private theorem going (shows : clockwork.Shows pacer) (runs : pacer.state ≠ .halted)
    (lasts : remaining ≠ 0) : ¬ (clockwork.state = .halted ∨ remaining = 0) := by
  rw [shows.state, not_or]
  exact ⟨runs, lasts⟩

private theorem untilRefresh_pos (pacer : Pacer) : 0 < pacer.untilRefresh :=
  Nat.sub_pos_of_lt pacer.sinceRefresh.isLt

/-- No time changes nothing. -/
private theorem advance_zero (onTime : pacer.OnTime) : pacer.advance 0 pacer.state = pacer := by
  have since : (pacer.advance 0 pacer.state).sinceRefresh = pacer.sinceRefresh := by
    apply Fin.ext
    rw [Pacer.sinceRefresh_advance_short pacer pacer.state (untilRefresh_pos pacer), Nat.add_zero]
  exact Pacer.mk.injEq .. |>.mpr ⟨rfl, rfl, rfl, since, onTime.symm⟩

private theorem slotsIn_zero (onTime : pacer.OnTime) : pacer.slotsIn 0 = 0 := by
  rw [Pacer.slotsIn, Nat.add_zero, onTime, Nat.sub_self]

private theorem runFor_zero (onTime : pacer.OnTime) :
    pacer.runFor 0 machine report = (⟨pacer.state, machine, report⟩, none) := by
  rw [Pacer.runFor, slotsIn_zero onTime, Run.useSlots]

/-- The loop comes to an end and does what the pacer does. -/
theorem tick?_of_passes {nanoseconds : Nat} {moments : List Moment} {ticked : Ticked}
    (passes : Pacer.Passes pacer machine report nanoseconds moments ticked)
    (shows : clockwork.Shows pacer) (runs : pacer.state ≠ .halted) (onTime : pacer.OnTime)
    (fits : pacer.clock + nanoseconds < spanLimit) {frames : Nat}
    (counted : report.frames = .ofNat frames)
    (few : frames + pacer.refreshesIn nanoseconds < framesLimit) :
    ∃ later : Clockwork, later.Shows ticked.pacer ∧
      clockwork.tick? machine report nanoseconds = some (later, ticked.machine, ticked.result) := by
  induction passes generalizing clockwork frames with
  | rested pacer machine report nanoseconds run short ran =>
      by_cases zero : nanoseconds = 0
      · subst zero
        rw [runFor_zero onTime] at ran
        cases ran
        refine ⟨clockwork, ?_, shows.tick?_of_stopped (.inr rfl)⟩
        dsimp only
        rw [advance_zero onTime]
        exact shows
      · obtain ⟨later, showsLater, passed⟩ := shows.pass?_short runs onTime fits short ran
        refine ⟨later, showsLater, ?_⟩
        rw [Clockwork.tick?, if_neg (shows.going runs zero), passed]
        dsimp only
        rw [if_pos (Nat.pos_of_ne_zero zero), showsLater.tick?_of_stopped (.inr rfl)]
  | failed pacer machine report nanoseconds before run fault slice ran =>
      have lasts : nanoseconds ≠ 0 := by
        intro zero
        rw [slice, zero, Nat.zero_min, runFor_zero onTime] at ran
        cases ran
      obtain ⟨later, showsLater, passed⟩ := shows.pass?_failed runs onTime fits slice ran
      refine ⟨later, showsLater, ?_⟩
      rw [Clockwork.tick?, if_neg (shows.going runs lasts), passed]
  | ended pacer machine report more run ran halted =>
      have positive := untilRefresh_pos pacer
      rw [Pacer.refreshesIn_untilRefresh_add pacer run.refresh.state] at few
      obtain ⟨later, showsLater, passed⟩ := shows.pass?_refresh runs onTime fits ran
        ((Pacer.Passes.frames_runFor ran).trans counted) (by omega)
      refine ⟨later, showsLater, ?_⟩
      rw [Clockwork.tick?, if_neg (shows.going runs (by omega)), passed]
      dsimp only
      rw [if_pos (by omega), showsLater.tick?_of_stopped (.inl halted)]
  | wentOn pacer machine report more run moments ticked ran refreshRuns behind ih =>
      have positive := untilRefresh_pos pacer
      have ranCounted := (Pacer.Passes.frames_runFor ran).trans counted
      have refreshCounted : run.refresh.report.frames = .ofNat (frames + 1) := by
        rw [Pacer.Passes.frames_refresh, ranCounted, ← Counter.ofNat_add]
      rw [Pacer.refreshesIn_untilRefresh_add pacer run.refresh.state] at few
      obtain ⟨between, showsBetween, passed⟩ :=
        shows.pass?_refresh runs onTime fits ran ranCounted (by omega)
      have fitsBehind : (pacer.advance pacer.untilRefresh run.refresh.state).clock + more <
          spanLimit := by
        rw [← Nat.add_assoc] at fits
        exact fits
      obtain ⟨later, showsLater, went⟩ := ih showsBetween refreshRuns
        (Pacer.onTime_advance _ _ _) fitsBehind refreshCounted (by omega)
      refine ⟨later, showsLater, ?_⟩
      rw [Clockwork.tick?, if_neg (shows.going runs (by omega)), passed]
      dsimp only
      rw [if_pos (by omega), went]

theorem tick? (shows : clockwork.Shows pacer) (onTime : pacer.OnTime) {nanoseconds : Nat}
    (fits : pacer.clock + nanoseconds < spanLimit)
    (few : pacer.refreshesIn nanoseconds < framesLimit) (machine : Machine) :
    ∃ later : Clockwork, later.Shows (pacer.tick machine nanoseconds).pacer ∧
      clockwork.tick? machine Report.none nanoseconds =
        some (later, (pacer.tick machine nanoseconds).machine,
          (pacer.tick machine nanoseconds).result) := by
  by_cases halted : pacer.state = .halted
  · rw [Pacer.tick_of_halted halted]
    exact ⟨clockwork, shows, shows.tick?_of_stopped (.inl halted)⟩
  · have fewInAll : 0 + pacer.refreshesIn nanoseconds < framesLimit := by
      rw [Nat.zero_add]
      exact few
    exact shows.tick?_of_passes (Pacer.passes_tick halted machine nanoseconds) halted onTime fits
      rfl fewInAll

end Shows
end Clockwork
end Chip8
