import Chip8.Proofs.Halting

set_option autoImplicit false

/-!
The main loop at its clock. A pass takes one reading at its head and one behind its tick; the second
is for the length of a nap only. The loop is compared with ticks one after the other, without limit
and without end: tick `k` covers the time from `mark k` to `mark (k + 1)`, and `Ends` tells behind
which of them a main loop has to end, and how.

Main statement: `keeps_time`.
-/

namespace Chip8

/-- The readings of a clock, in the order in which they are taken. -/
structure Clock where
  reading : Nat → Nat
  steady : ∀ place, reading place ≤ reading (place + 1)

/-- A session and what its main loop meets: the clock, the devices of each pass, and a limit. -/
structure Setting where
  session : Session
  clock : Clock
  devices : Nat → Devices
  limit : Option Nat

/-- What a main loop has come to, and how long it has slept behind its passes. -/
structure Watched where
  passed : Passed
  naps : List Nat

namespace Setting

/-- The nap behind a pass fills up the time to the next refresh. -/
def napAfter (spent : Nat) : Option Nat :=
  if spent < refreshInterval then some (refreshInterval - spent) else none

/-- A number of rounds of the main loop, from a place among the readings on. -/
def watchFrom (setting : Setting) : Nat → Loop → Nat → Watched
  | 0, loop, _ => ⟨loop.run setting.limit [], []⟩
  | rounds + 1, loop, place =>
      if loop.goesOn setting.limit then
        let now := setting.clock.reading place
        let made := loop.pass ⟨now, setting.devices loop.passes⟩
        match made.ending with
        | some _ => ⟨made, []⟩
        | none =>
            let spent := setting.clock.reading (place + 1) - now
            let later := setting.watchFrom rounds made.loop (place + 2)
            ⟨{ later.passed with
                covered := made.covered ++ later.passed.covered
                calls := made.calls ++ later.passed.calls },
              (napAfter spent).toList ++ later.naps⟩
      else ⟨⟨loop, [], [], some (.ok ())⟩, []⟩

def watch (setting : Setting) (rounds : Nat) : Watched :=
  let start := Loop.start setting.session (setting.clock.reading 0)
  if setting.session.isLoaded then setting.watchFrom rounds start 1
  else ⟨⟨start, [], [], some (.error .notLoaded)⟩, []⟩

/-! ### Ticks one after the other -/

/-- The reading before the loop, and then those at the heads of the passes. -/
def mark (setting : Setting) : Nat → Nat
  | 0 => setting.clock.reading 0
  | tick + 1 => setting.clock.reading (2 * tick + 1)

def span (setting : Setting) (tick : Nat) : Nat :=
  setting.mark (tick + 1) - setting.mark tick

def sessionAt (setting : Setting) : Nat → Session
  | 0 => setting.session
  | tick + 1 =>
      ((setting.sessionAt tick).tick (setting.devices tick) (setting.span tick)).session

def replyAt (setting : Setting) (tick : Nat) : Reply Control :=
  (setting.sessionAt tick).tick (setting.devices tick) (setting.span tick)

def nap? (setting : Setting) (tick : Nat) : Option Nat :=
  match (setting.replyAt tick).result with
  | .ok .proceed =>
      napAfter (setting.clock.reading (2 * tick + 2) - setting.clock.reading (2 * tick + 1))
  | _ => none

/-- The reasons for which a main loop ends behind a number of ticks, with what it returns. -/
inductive Ends (setting : Setting) : Nat → Except Fault Unit → Prop where
  | unloaded (empty : setting.session.isLoaded = false) : Ends setting 0 (.error .notLoaded)
  | haltedBefore (halted : setting.session.Halted) : Ends setting 0 (.ok ())
  | noTicks (loaded : setting.session.isLoaded = true) (limited : setting.limit = some 0) :
      Ends setting 0 (.ok ())
  | failed (tick : Nat) (fault : Fault) (answer : (setting.replyAt tick).result = .error fault) :
      Ends setting (tick + 1) (.error fault)
  | quit (tick : Nat) (answer : (setting.replyAt tick).result = .ok .quit) :
      Ends setting (tick + 1) (.ok ())
  | halted (tick : Nat) (answer : (setting.replyAt tick).result = .ok .proceed)
      (halted : (setting.sessionAt (tick + 1)).Halted) : Ends setting (tick + 1) (.ok ())
  | limited (tick : Nat) (answer : (setting.replyAt tick).result = .ok .proceed)
      (limited : setting.limit = some (tick + 1)) : Ends setting (tick + 1) (.ok ())

/-- Ticks from a first one on that a main loop has made, at most a number of rounds. -/
structure KeepsTime (setting : Setting) (first rounds ticks : Nat) (watched : Watched) :
    Prop where
  covered : watched.passed.covered = (List.range' first ticks).map setting.span
  /-- The times add up: nothing is lost and nothing is counted twice. -/
  sum : setting.mark first + total id watched.passed.covered = setting.mark (first + ticks)
  session : watched.passed.loop.session = setting.sessionAt (first + ticks)
  calls : watched.passed.calls =
    (List.range' first ticks).flatMap fun tick => (setting.replyAt tick).calls
  naps : watched.naps = (List.range' first ticks).filterMap setting.nap?
  withinRounds : ticks ≤ rounds
  withinLimit : ∀ limit, setting.limit = some limit → first + ticks ≤ limit
  /-- There was no reason to end earlier. -/
  notBefore : ∀ earlier < first + ticks, ∀ result, ¬setting.Ends earlier result
  /-- It has ended for one of the reasons and has returned accordingly. -/
  ends : ∀ result, watched.passed.ending = some result ↔ setting.Ends (first + ticks) result
  /-- Otherwise it is still going. -/
  going : watched.passed.ending = none → ticks = rounds

variable (setting : Setting)

theorem mark_le_mark_succ (tick : Nat) : setting.mark tick ≤ setting.mark (tick + 1) := by
  cases tick with
  | zero => exact setting.clock.steady 0
  | succ tick =>
      have behind := setting.clock.steady (2 * tick + 1)
      have next := setting.clock.steady (2 * tick + 2)
      exact Nat.le_trans behind next

theorem mark_add_span (tick : Nat) :
    setting.mark tick + setting.span tick = setting.mark (tick + 1) :=
  Nat.add_sub_of_le (setting.mark_le_mark_succ tick)

end Setting

/-! ### Loaded sessions -/

namespace Session

variable {session : Session}

theorem isLoaded_tick (loaded : session.isLoaded = true) (devices : Devices) (elapsed : Nat) :
    (session.tick devices elapsed).session.isLoaded = true := by
  obtain ⟨engine, present⟩ := Option.isSome_iff_exists.mp loaded
  rcases polled : devices.poll engine.machine.keypad with ⟨keypad, failure | answer⟩
  · rw [tick_of_failure present polled]
    rfl
  · cases answer with
    | quit =>
        rw [tick_of_quit present polled]
        rfl
    | proceed =>
        rw [tick_of_proceed present polled]
        obtain ⟨later, left, -⟩ := state_runEngine
          { session with engine := some (engine.keyed keypad) } devices (engine.keyed keypad)
          elapsed
        exact Option.isSome_iff_exists.mpr ⟨later, left⟩

theorem isRunning_iff (loaded : session.isLoaded = true) :
    session.isRunning = true ↔ ¬session.Halted := by
  obtain ⟨engine, present⟩ := Option.isSome_iff_exists.mp loaded
  have runs : session.isRunning = engine.pacer.isRunning := by
    rw [isRunning, present]
    rfl
  rw [runs, Pacer.isRunning_iff, Halted, present]
  simp

end Session

theorem Loop.endingOf_eq_none_iff {result : Except Fault Control} :
    endingOf result = none ↔ result = .ok .proceed := by
  rcases result with fault | control
  · exact ⟨nofun, nofun⟩
  · cases control with
    | quit => exact ⟨nofun, nofun⟩
    | proceed => exact ⟨fun _ => rfl, fun _ => rfl⟩

namespace Setting

variable {setting : Setting} {first : Nat}

/-! ### A tick that breaks off the loop -/

section Breaks

variable {tick : Nat} {ending : Except Fault Unit}
variable (ended : Loop.endingOf (setting.replyAt tick).result = some ending)

include ended

theorem nap?_of_breaks : setting.nap? tick = none := by
  unfold nap?
  split
  · rename_i proceeds
    rw [proceeds] at ended
    cases ended
  · rfl

theorem some_eq_some_iff_ends (result : Except Fault Unit) :
    some ending = some result ↔ setting.Ends (tick + 1) result := by
  constructor
  · intro same
    cases same
    cases answer : (setting.replyAt tick).result with
    | error fault =>
        rw [answer] at ended
        cases ended
        exact .failed tick fault answer
    | ok control =>
        rw [answer] at ended
        cases control with
        | quit =>
            cases ended
            exact .quit tick answer
        | proceed => cases ended
  · intro ends
    rw [← ended]
    cases ends with
    | failed tick fault answer =>
        rw [answer]
        rfl
    | quit tick answer =>
        rw [answer]
        rfl
    | halted tick answer halted =>
        rw [answer] at ended
        cases ended
    | limited tick answer limited =>
        rw [answer] at ended
        cases ended

end Breaks

/-! ### Before a pass -/

/-- The loop before a pass. -/
def loopAt (setting : Setting) (tick : Nat) : Loop :=
  ⟨setting.sessionAt tick, setting.mark tick, tick⟩

theorem pass_loopAt (setting : Setting) (tick : Nat) :
    (setting.loopAt tick).pass ⟨setting.clock.reading (2 * tick + 1), setting.devices tick⟩ =
      ⟨setting.loopAt (tick + 1), [setting.span tick], (setting.replyAt tick).calls,
        Loop.endingOf (setting.replyAt tick).result⟩ :=
  rfl

/-- A main loop comes as far as the head of a pass. -/
structure Comes (setting : Setting) (tick : Nat) : Prop where
  loaded : setting.session.isLoaded = true
  proceeded : ∀ earlier < tick, (setting.replyAt earlier).result = .ok .proceed
  ran : ∀ earlier < tick, ¬(setting.sessionAt earlier).Halted
  withinLimit : ∀ limit, setting.limit = some limit → tick ≤ limit

theorem isLoaded_sessionAt (loaded : setting.session.isLoaded = true) (tick : Nat) :
    (setting.sessionAt tick).isLoaded = true := by
  induction tick with
  | zero => exact loaded
  | succ tick ih => exact Session.isLoaded_tick ih (setting.devices tick) (setting.span tick)

namespace Comes

theorem not_ends (comes : setting.Comes first) {earlier : Nat} (before : earlier < first)
    (result : Except Fault Unit) : ¬setting.Ends earlier result := by
  intro ends
  cases ends with
  | unloaded empty =>
      rw [comes.loaded] at empty
      cases empty
  | haltedBefore halted => exact comes.ran 0 before halted
  | noTicks loaded limited => exact absurd (comes.withinLimit 0 limited) (Nat.not_le.mpr before)
  | failed tick fault answer =>
      rw [comes.proceeded tick (Nat.lt_of_succ_lt before)] at answer
      cases answer
  | quit tick answer =>
      rw [comes.proceeded tick (Nat.lt_of_succ_lt before)] at answer
      cases answer
  | halted tick answer halted => exact comes.ran (tick + 1) before halted
  | limited tick answer limited =>
      exact absurd (comes.withinLimit (tick + 1) limited) (Nat.not_le.mpr before)

/-- At the head of a pass the loop can end because of a halt or of its limit. -/
theorem ends_iff (comes : setting.Comes first) (result : Except Fault Unit) :
    setting.Ends first result ↔
      result = .ok () ∧ ((setting.sessionAt first).Halted ∨ setting.limit = some first) := by
  constructor
  · intro ends
    cases ends with
    | unloaded empty =>
        rw [comes.loaded] at empty
        cases empty
    | haltedBefore halted => exact ⟨rfl, .inl halted⟩
    | noTicks loaded limited => exact ⟨rfl, .inr limited⟩
    | failed tick fault answer =>
        rw [comes.proceeded tick (Nat.lt_succ_self tick)] at answer
        cases answer
    | quit tick answer =>
        rw [comes.proceeded tick (Nat.lt_succ_self tick)] at answer
        cases answer
    | halted tick answer halted => exact ⟨rfl, .inl halted⟩
    | limited tick answer limited => exact ⟨rfl, .inr limited⟩
  · rintro ⟨rfl, reason⟩
    cases first with
    | zero =>
        rcases reason with halted | limited
        · exact .haltedBefore halted
        · exact .noTicks comes.loaded limited
    | succ tick =>
        have answer := comes.proceeded tick (Nat.lt_succ_self tick)
        rcases reason with halted | limited
        · exact .halted tick answer halted
        · exact .limited tick answer limited

theorem goesOn_iff (comes : setting.Comes first) :
    (setting.loopAt first).goesOn setting.limit = true ↔
      ¬(setting.sessionAt first).Halted ∧ setting.limit ≠ some first := by
  have runs := Session.isRunning_iff (isLoaded_sessionAt comes.loaded first)
  rw [Loop.goesOn, Bool.and_eq_true, loopAt, runs]
  refine and_congr_right fun _ => ?_
  cases limited : setting.limit with
  | none => simp
  | some limit =>
      have within := comes.withinLimit limit limited
      simp only [Option.all_some, decide_eq_true_eq, ne_eq, Option.some.injEq]
      omega

theorem not_ends_of_goesOn (comes : setting.Comes first)
    (goes : (setting.loopAt first).goesOn setting.limit = true) (result : Except Fault Unit) :
    ¬setting.Ends first result := by
  obtain ⟨runs, unlimited⟩ := comes.goesOn_iff.mp goes
  rw [comes.ends_iff]
  rintro ⟨-, halted | limited⟩
  · exact runs halted
  · exact unlimited limited

theorem lt_limit (comes : setting.Comes first)
    (goes : (setting.loopAt first).goesOn setting.limit = true) :
    ∀ limit, setting.limit = some limit → first + 1 ≤ limit := by
  intro limit limited
  have within := comes.withinLimit limit limited
  have further : first ≠ limit := by
    intro same
    exact (comes.goesOn_iff.mp goes).2 (same ▸ limited)
  omega

theorem next (comes : setting.Comes first)
    (goes : (setting.loopAt first).goesOn setting.limit = true)
    (answer : (setting.replyAt first).result = .ok .proceed) : setting.Comes (first + 1) := by
  constructor
  case loaded => exact comes.loaded
  case proceeded =>
    intro earlier before
    rcases Nat.lt_succ_iff_lt_or_eq.mp before with earlier | rfl
    · exact comes.proceeded _ earlier
    · exact answer
  case ran =>
    intro earlier before
    rcases Nat.lt_succ_iff_lt_or_eq.mp before with earlier | rfl
    · exact comes.ran _ earlier
    · exact (comes.goesOn_iff.mp goes).1
  case withinLimit => exact comes.lt_limit goes

theorem not_ends_upTo (comes : setting.Comes first)
    (goes : (setting.loopAt first).goesOn setting.limit = true) :
    ∀ earlier < first + 1, ∀ result, ¬setting.Ends earlier result := by
  intro earlier before result
  rcases Nat.lt_succ_iff_lt_or_eq.mp before with earlier | rfl
  · exact comes.not_ends earlier result
  · exact comes.not_ends_of_goesOn goes result

/-! ### One round -/

theorem rests (comes : setting.Comes first)
    (goes : (setting.loopAt first).goesOn setting.limit = true) :
    setting.KeepsTime first 0 0 ⟨⟨setting.loopAt first, [], [], none⟩, []⟩ where
  covered := rfl
  sum := rfl
  session := rfl
  calls := rfl
  naps := rfl
  withinRounds := Nat.le_refl 0
  withinLimit := comes.withinLimit
  notBefore := fun _ => comes.not_ends
  ends := fun result => ⟨nofun, fun ends => absurd ends (comes.not_ends_of_goesOn goes result)⟩
  going := fun _ => rfl

theorem stops (comes : setting.Comes first)
    (ended : (setting.loopAt first).goesOn setting.limit = false) (rounds : Nat) :
    setting.KeepsTime first rounds 0 ⟨⟨setting.loopAt first, [], [], some (.ok ())⟩, []⟩ where
  covered := rfl
  sum := rfl
  session := rfl
  calls := rfl
  naps := rfl
  withinRounds := Nat.zero_le rounds
  withinLimit := comes.withinLimit
  notBefore := fun _ => comes.not_ends
  ends := by
    have reason : (setting.sessionAt first).Halted ∨ setting.limit = some first := by
      rw [← Bool.not_eq_true, comes.goesOn_iff, Classical.not_and_iff_not_or_not,
        Classical.not_not, ne_eq, Classical.not_not] at ended
      exact ended
    intro result
    rw [Nat.add_zero, comes.ends_iff, and_iff_left reason, Option.some_inj, eq_comm]
  going := nofun

/-- A tick behind which the loop breaks off. -/
theorem breaks (comes : setting.Comes first)
    (goes : (setting.loopAt first).goesOn setting.limit = true) {ending : Except Fault Unit}
    (ended : Loop.endingOf (setting.replyAt first).result = some ending) (rounds : Nat) :
    setting.KeepsTime first (rounds + 1) 1
      ⟨⟨setting.loopAt (first + 1), [setting.span first], (setting.replyAt first).calls,
        some ending⟩, []⟩ where
  covered := rfl
  sum := setting.mark_add_span first
  session := rfl
  calls := (List.append_nil _).symm
  naps := by
    rw [List.range'_one, List.filterMap_cons, nap?_of_breaks ended]
    rfl
  withinRounds := Nat.le_add_left 1 rounds
  withinLimit := comes.lt_limit goes
  notBefore := comes.not_ends_upTo goes
  ends := some_eq_some_iff_ends ended
  going := nofun

end Comes

/-- A tick behind which the loop goes on, and then the rest. -/
theorem KeepsTime.cons {rounds ticks : Nat} {later : Watched}
    (answer : (setting.replyAt first).result = .ok .proceed)
    (keeps : setting.KeepsTime (first + 1) rounds ticks later) :
    setting.KeepsTime first (rounds + 1) (ticks + 1)
      ⟨{ later.passed with
          covered := [setting.span first] ++ later.passed.covered
          calls := (setting.replyAt first).calls ++ later.passed.calls },
        (napAfter (setting.clock.reading (2 * first + 2) -
          setting.clock.reading (2 * first + 1))).toList ++ later.naps⟩ := by
  have place : first + (ticks + 1) = first + 1 + ticks := by omega
  constructor
  case covered =>
    rw [List.range'_succ, List.map_cons, ← keeps.covered]
    rfl
  case sum =>
    rw [place, ← keeps.sum, ← setting.mark_add_span first, Nat.add_assoc]
    rfl
  case session =>
    rw [place]
    exact keeps.session
  case calls =>
    rw [List.range'_succ, List.flatMap_cons, ← keeps.calls]
  case naps =>
    have nap : setting.nap? first = napAfter (setting.clock.reading (2 * first + 2) -
        setting.clock.reading (2 * first + 1)) := by
      rw [nap?, answer]
    rw [List.range'_succ, List.filterMap_cons, nap, keeps.naps]
    cases napAfter _ <;> rfl
  case withinRounds => exact Nat.succ_le_succ keeps.withinRounds
  case withinLimit =>
    rw [place]
    exact keeps.withinLimit
  case notBefore =>
    rw [place]
    exact keeps.notBefore
  case ends =>
    rw [place]
    exact keeps.ends
  case going => exact fun going => congrArg Nat.succ (keeps.going going)

/-! ### The whole loop -/

theorem keepsTime_watchFrom (rounds : Nat) (comes : setting.Comes first) :
    ∃ ticks, setting.KeepsTime first rounds ticks
      (setting.watchFrom rounds (setting.loopAt first) (2 * first + 1)) := by
  induction rounds generalizing first with
  | zero =>
      cases goes : (setting.loopAt first).goesOn setting.limit with
      | true =>
          have run : (setting.loopAt first).run setting.limit [] =
              ⟨setting.loopAt first, [], [], none⟩ := by
            rw [Loop.run, goes]
            rfl
          rw [watchFrom, run]
          exact ⟨0, comes.rests goes⟩
      | false =>
          have run : (setting.loopAt first).run setting.limit [] =
              ⟨setting.loopAt first, [], [], some (.ok ())⟩ := by
            rw [Loop.run, goes]
            rfl
          rw [watchFrom, run]
          exact ⟨0, comes.stops goes 0⟩
  | succ rounds ih =>
      cases goes : (setting.loopAt first).goesOn setting.limit with
      | false =>
          rw [watchFrom, goes]
          exact ⟨0, comes.stops goes (rounds + 1)⟩
      | true =>
          rw [watchFrom, goes]
          simp only [if_true]
          rw [show (setting.loopAt first).passes = first from rfl, pass_loopAt]
          cases ended : Loop.endingOf (setting.replyAt first).result with
          | some ending => exact ⟨1, comes.breaks goes ended rounds⟩
          | none =>
              have answer := Loop.endingOf_eq_none_iff.mp ended
              obtain ⟨ticks, keeps⟩ := ih (comes.next goes answer)
              exact ⟨ticks + 1, keeps.cons answer⟩

/-- What a main loop finds at the heads of a number of passes. -/
def passes (setting : Setting) (first rounds : Nat) : List Pass :=
  (List.range' first rounds).map fun tick =>
    ⟨setting.clock.reading (2 * tick + 1), setting.devices tick⟩

/-- The readings behind the ticks leave nothing behind. -/
theorem passed_watchFrom (setting : Setting) (rounds : Nat) (loop : Loop) :
    (setting.watchFrom rounds loop (2 * loop.passes + 1)).passed =
      loop.run setting.limit (setting.passes loop.passes rounds) := by
  induction rounds generalizing loop with
  | zero => rfl
  | succ rounds ih =>
      have head : setting.passes loop.passes (rounds + 1) =
          ⟨setting.clock.reading (2 * loop.passes + 1), setting.devices loop.passes⟩ ::
            setting.passes (loop.passes + 1) rounds := rfl
      rw [head, watchFrom, Loop.run]
      cases loop.goesOn setting.limit with
      | false => rfl
      | true =>
          have behind : (setting.watchFrom rounds
              (loop.pass ⟨setting.clock.reading (2 * loop.passes + 1),
                setting.devices loop.passes⟩).loop (2 * loop.passes + 1 + 2)).passed =
              Loop.run setting.limit
                (loop.pass ⟨setting.clock.reading (2 * loop.passes + 1),
                  setting.devices loop.passes⟩).loop (setting.passes (loop.passes + 1) rounds) :=
            ih _
          simp only [if_true]
          generalize loop.pass ⟨setting.clock.reading (2 * loop.passes + 1),
            setting.devices loop.passes⟩ = made at behind ⊢
          cases made.ending with
          | some ending => rfl
          | none =>
              simp only [behind]

theorem passed_watch (setting : Setting) (rounds : Nat) :
    (setting.watch rounds).passed =
      Loop.play setting.session setting.limit (setting.clock.reading 0)
        (setting.passes 0 rounds) := by
  rw [watch, Loop.play]
  cases setting.session.isLoaded with
  | false => rfl
  | true => exact setting.passed_watchFrom rounds (Loop.start setting.session _)

theorem comes_zero (loaded : setting.session.isLoaded = true) : setting.Comes 0 :=
  ⟨loaded, fun _ before => absurd before (Nat.not_lt_zero _),
    fun _ before => absurd before (Nat.not_lt_zero _), fun limit _ => Nat.zero_le limit⟩

theorem keepsTime_unloaded (empty : setting.session.isLoaded = false) (rounds : Nat) :
    setting.KeepsTime 0 rounds 0
      ⟨⟨setting.loopAt 0, [], [], some (.error .notLoaded)⟩, []⟩ where
  covered := rfl
  sum := rfl
  session := rfl
  calls := rfl
  naps := rfl
  withinRounds := Nat.zero_le rounds
  withinLimit := fun limit _ => Nat.zero_le limit
  notBefore := fun _ before => absurd before (Nat.not_lt_zero _)
  ends := by
    intro result
    constructor
    · intro same
      cases same
      exact .unloaded empty
    · intro ends
      cases ends with
      | unloaded empty => rfl
      | haltedBefore halted =>
          obtain ⟨engine, present, -⟩ := halted
          rw [Session.isLoaded, present] at empty
          cases empty
      | noTicks loaded limited =>
          rw [loaded] at empty
          cases empty
  going := nofun

theorem keepsTime_watch (setting : Setting) (rounds : Nat) :
    ∃ ticks, setting.KeepsTime 0 rounds ticks (setting.watch rounds) := by
  rw [watch]
  cases loaded : setting.session.isLoaded with
  | false => exact ⟨0, keepsTime_unloaded loaded rounds⟩
  | true => exact keepsTime_watchFrom rounds (comes_zero loaded)

theorem KeepsTime.no_ticks {rounds ticks : Nat} {watched : Watched}
    (keeps : setting.KeepsTime 0 rounds ticks watched) {result : Except Fault Unit}
    (ends : setting.Ends 0 result) : ticks = 0 ∧ watched.passed.ending = some result := by
  cases ticks with
  | zero => exact ⟨rfl, (keeps.ends result).mpr ends⟩
  | succ ticks => exact absurd ends (keeps.notBefore 0 (Nat.succ_pos (0 + ticks)) result)

/-- A main loop neither loses time nor counts it twice, and it ends for a reason. A machine that is
halted gets no tick. -/
theorem keeps_time (setting : Setting) (rounds : Nat) :
    (setting.watch rounds).passed =
        Loop.play setting.session setting.limit (setting.clock.reading 0)
          (setting.passes 0 rounds) ∧
      ∃ ticks, setting.KeepsTime 0 rounds ticks (setting.watch rounds) ∧
        (setting.session.Halted →
          ticks = 0 ∧ (setting.watch rounds).passed.ending = some (.ok ())) := by
  obtain ⟨ticks, keeps⟩ := setting.keepsTime_watch rounds
  exact ⟨setting.passed_watch rounds, ticks, keeps,
    fun halted => keeps.no_ticks (.haltedBefore halted)⟩

/-- Its second pass comes late, and in that pass the program ends itself. -/
def latePass : Setting where
  session := Session.soundingExitLoaded
  clock := ⟨fun place => 20000000 * (place / 3), fun place =>
    Nat.mul_le_mul_left _ (Nat.div_le_div_right (Nat.le_succ place))⟩
  devices := fun _ => ⟨fun keypad => (keypad, .ok .proceed), fun _ => none⟩
  limit := some 5

theorem keeps_time_latePass :
    (latePass.watch 9).passed.covered = [0, 20000000] ∧
      (latePass.watch 9).naps = [refreshInterval, refreshInterval] ∧
      latePass.mark 2 = 20000000 ∧
      latePass.Ends 2 (.ok ()) ∧ (latePass.watch 9).passed.ending = some (.ok ()) := by
  have covered : (latePass.watch 9).passed.covered = [0, 20000000] := by
    decide +kernel
  have answered : (latePass.watch 9).passed.ending.map Except.toOption = some (some ()) := by
    decide +kernel
  obtain ⟨result, ended, ok⟩ := Option.map_eq_some_iff.mp answered
  obtain ⟨-, ticks, keeps, -⟩ := latePass.keeps_time 9
  have two : ticks = 2 := by
    have same := congrArg List.length keeps.covered
    rw [covered, List.length_map, List.length_range'] at same
    exact same.symm
  subst two
  cases result with
  | error fault => cases ok
  | ok value => exact ⟨covered, by decide +kernel, rfl, (keeps.ends _).mp ended, ended⟩

end Setting
end Chip8
