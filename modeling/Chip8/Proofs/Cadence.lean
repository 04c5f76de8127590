import Chip8.Proofs.Clockwork

set_option autoImplicit false

/-!
The cadence of a whole run. Slots and refreshes are counted from the start of time, so that no cut
of the time into stretches moves them: the clock says how many there have been. A slot that comes up
while the machine waits is lost for good, and the timers count down at every refresh.

Main statement: `keepsCadence`, for every run that starts with a program. Its first part says that
the clockwork, which would stop at a sum out of its width or a loop without end, goes through it.
-/

namespace Chip8

def RunState.isWaiting : RunState → Bool
  | .awaitingKey _ | .awaitingRefresh _ => true
  | _ => false

namespace Pacer

/-- The time since the last refresh is what whole refresh intervals leave of the clock. -/
def InPhase (pacer : Pacer) : Prop :=
  pacer.sinceRefresh.val = pacer.clock % refreshInterval

variable {pacer : Pacer}

theorem inPhase_ofRate (rate : UInt32) : (ofRate rate).InPhase := rfl

theorem InPhase.advance (inPhase : pacer.InPhase) (time : Nat) (state : RunState) :
    (pacer.advance time state).InPhase := by
  rw [InPhase, sinceRefresh_advance, inPhase, Nat.mod_add_mod]
  rfl

theorem InPhase.refreshesIn_add (inPhase : pacer.InPhase) (nanoseconds : Nat) :
    pacer.clock / refreshInterval + pacer.refreshesIn nanoseconds =
      (pacer.clock + nanoseconds) / refreshInterval := by
  have whole := Nat.div_add_mod pacer.clock refreshInterval
  have behind := Nat.mul_add_div (Nat.succ_pos 16666666) (pacer.clock / refreshInterval)
    (pacer.clock % refreshInterval + nanoseconds)
  rw [refreshesIn, inPhase, ← behind, ← Nat.add_assoc, whole]

theorem InPhase.tick (inPhase : pacer.InPhase) (machine : Machine) (nanoseconds : Nat) :
    (pacer.tick machine nanoseconds).pacer.InPhase := by
  by_cases halted : pacer.state = .halted
  · rw [tick_of_halted halted]
    exact inPhase
  · obtain ⟨time, _, advanced⟩ := (passes_tick halted machine nanoseconds).advanced
    rw [advanced]
    exact inPhase.advance time _

theorem clock_tick_le (pacer : Pacer) (machine : Machine) (nanoseconds : Nat) :
    (pacer.tick machine nanoseconds).pacer.clock ≤ pacer.clock + nanoseconds := by
  by_cases halted : pacer.state = .halted
  · rw [tick_of_halted halted]
    exact Nat.le_add_right _ _
  · obtain ⟨time, short, advanced⟩ := (passes_tick halted machine nanoseconds).advanced
    rw [advanced]
    exact Nat.add_le_add_left short _

theorem rate_tick (pacer : Pacer) (machine : Machine) (nanoseconds : Nat) :
    (pacer.tick machine nanoseconds).pacer.rate = pacer.rate := by
  by_cases halted : pacer.state = .halted
  · rw [tick_of_halted halted]
  · obtain ⟨time, _, advanced⟩ := (passes_tick halted machine nanoseconds).advanced
    rw [advanced]
    rfl

end Pacer

/-! ### The clockwork of a whole run -/

namespace Clockwork

/-- A machine on its way with a clockwork. Each stretch of time is a span. -/
structure Course where
  clockwork : Clockwork
  machine : Machine
  results : List (Except Fault Report)

namespace Course

def meet? (course : Course) : Event → Option Course
  | .elapse nanoseconds => do
      let span ← within? spanLimit nanoseconds
      let (clockwork, machine, result) ←
        course.clockwork.tick? course.machine Report.none span
      return ⟨clockwork, machine, course.results ++ [result]⟩
  | .press key =>
      some { course with
        machine := { course.machine with keypad := course.machine.keypad.pressByte key } }
  | .release key =>
      some { course with
        machine := { course.machine with keypad := course.machine.keypad.releaseByte key } }

def follow? (course : Course) : List Event → Option Course
  | [] => some course
  | event :: rest => do
      let later ← course.meet? event
      later.follow? rest

end Course

/-- Both courses are at the same place. -/
structure Follows (clocked : Course) (course : Chip8.Course) : Prop where
  shows : clocked.clockwork.Shows course.pacer
  machine : clocked.machine = course.machine
  results : clocked.results = course.results

/-- The slots of so much time fit in 64 bits at any rate. -/
theorem slotsBy_lt (rate : UInt32) {time : Nat} (few : time / refreshInterval < framesLimit) :
    Pacer.slotsBy rate time < 18446744073709551616 := by
  have below : time < framesLimit * 16666667 :=
    (Nat.div_lt_iff_lt_mul (Nat.succ_pos 16666666)).mp few
  have product := Nat.mul_le_mul (Nat.le_of_lt below) (Nat.le_of_lt rate.toNat_lt)
  have room : 500000000 + framesLimit * 16666667 * 2 ^ 32 <
      1000000000 * 18446744073709551616 := by decide
  exact Nat.div_lt_of_lt_mul (Nat.lt_of_le_of_lt (Nat.add_le_add_left product _) room)

theorem span_lt {time : Nat} (few : time / refreshInterval < framesLimit) : time < spanLimit := by
  have below := (Nat.div_lt_iff_lt_mul (Nat.succ_pos 16666666)).mp few
  exact Nat.lt_trans below (by decide)

theorem Follows.meet? {clocked : Course} {course : Chip8.Course} (follows : Follows clocked course)
    (onTime : course.pacer.OnTime) (inPhase : course.pacer.InPhase) (event : Event)
    (few : (course.pacer.clock + event.duration) / refreshInterval < framesLimit) :
    ∃ later, clocked.meet? event = some later ∧ Follows later (course.meet event) := by
  rcases clocked with ⟨clockwork, machine, results⟩
  obtain ⟨shows, rfl, rfl⟩ := follows
  cases event with
  | elapse nanoseconds =>
      have spanFits : course.pacer.clock + nanoseconds < spanLimit := span_lt few
      have alone : nanoseconds < spanLimit := Nat.lt_of_le_of_lt (Nat.le_add_left _ _) spanFits
      have fewHere : course.pacer.refreshesIn nanoseconds < framesLimit := by
        have refreshes := inPhase.refreshesIn_add nanoseconds
        have upTo := Nat.le_add_left (course.pacer.refreshesIn nanoseconds)
          (course.pacer.clock / refreshInterval)
        rw [refreshes] at upTo
        exact Nat.lt_of_le_of_lt upTo few
      obtain ⟨later, showsLater, ticked⟩ := shows.tick? onTime spanFits fewHere course.machine
      refine ⟨⟨later, _, course.results ++ [_]⟩, ?_, ⟨showsLater, rfl, rfl⟩⟩
      rw [Course.meet?, within?_eq alone, Option.bind_eq_bind, Option.bind_some]
      dsimp only
      rw [ticked, Option.bind_eq_bind, Option.bind_some]
      rfl
  | press key => exact ⟨_, rfl, ⟨shows, rfl, rfl⟩⟩
  | release key => exact ⟨_, rfl, ⟨shows, rfl, rfl⟩⟩

end Clockwork

namespace Course

variable {course : Course}

theorem inPhase_meet (inPhase : course.pacer.InPhase) (event : Event) :
    (course.meet event).pacer.InPhase := by
  cases event with
  | elapse nanoseconds => exact inPhase.tick course.machine nanoseconds
  | press key => exact inPhase
  | release key => exact inPhase

theorem clock_meet_le (course : Course) (event : Event) :
    (course.meet event).pacer.clock ≤ course.pacer.clock + event.duration := by
  cases event with
  | elapse nanoseconds => exact course.pacer.clock_tick_le course.machine nanoseconds
  | press key => exact Nat.le_refl _
  | release key => exact Nat.le_refl _

theorem elapsed_cons (event : Event) (rest : List Event) :
    elapsed (event :: rest) = event.duration + elapsed rest := rfl

theorem elapsed_append (earlier later : List Event) :
    elapsed (earlier ++ later) = elapsed earlier + elapsed later :=
  total_append Event.duration earlier later

theorem clock_follow_le (course : Course) (events : List Event) :
    (course.follow events).pacer.clock ≤ course.pacer.clock + elapsed events := by
  induction events generalizing course with
  | nil => exact Nat.le_refl _
  | cons event rest ih =>
      rw [elapsed_cons, ← Nat.add_assoc]
      exact Nat.le_trans (ih (course.meet event))
        (Nat.add_le_add_right (course.clock_meet_le event) _)

theorem granted_follow_lt (onTime : course.pacer.OnTime) {earlier later : List Event}
    (few : (course.pacer.clock + elapsed (earlier ++ later)) / refreshInterval < framesLimit) :
    (course.follow earlier).pacer.granted < 18446744073709551616 := by
  have upTo := course.clock_follow_le earlier
  rw [elapsed_append] at few
  rw [onTime_follow onTime earlier]
  exact Clockwork.slotsBy_lt _ (Nat.lt_of_le_of_lt (Nat.div_le_div_right (by omega)) few)

theorem follows_follow {clocked : Clockwork.Course} (follows : Clockwork.Follows clocked course)
    (onTime : course.pacer.OnTime) (inPhase : course.pacer.InPhase) (events : List Event)
    (few : (course.pacer.clock + elapsed events) / refreshInterval < framesLimit) :
    ∃ later, clocked.follow? events = some later ∧
      Clockwork.Follows later (course.follow events) := by
  induction events generalizing clocked course with
  | nil => exact ⟨clocked, rfl, follows⟩
  | cons event rest ih =>
      rw [elapsed_cons, ← Nat.add_assoc] at few
      have fewHere : (course.pacer.clock + event.duration) / refreshInterval <
          framesLimit :=
        Nat.lt_of_le_of_lt (Nat.div_le_div_right (Nat.le_add_right _ _)) few
      have fewBehind : ((course.meet event).pacer.clock + elapsed rest) / refreshInterval <
          framesLimit :=
        Nat.lt_of_le_of_lt
          (Nat.div_le_div_right (Nat.add_le_add_right (course.clock_meet_le event) _)) few
      obtain ⟨between, met, followsBetween⟩ := follows.meet? onTime inPhase event fewHere
      obtain ⟨later, followed, followsLater⟩ :=
        ih followsBetween (onTime_meet onTime event) (inPhase_meet inPhase event) fewBehind
      refine ⟨later, ?_, followsLater⟩
      rw [Clockwork.Course.follow?, met, Option.bind_eq_bind, Option.bind_some, followed]

/-! ### The clock of a whole run -/

/-- What a part of a run that leaves the machine going has come to. -/
structure Going (before after : Course) (time : Nat) (moments : List Moment) : Prop where
  clock : after.pacer.clock = before.pacer.clock + time
  refreshes : before.pacer.clock / refreshInterval + moments.countP Moment.isRefresh =
    after.pacer.clock / refreshInterval
  results : ∃ (reports : List Report) (frames : List Nat),
    after.results = before.results ++ reports.map .ok ∧
      reports.map Report.frames = frames.map .ofNat ∧
      total id frames = moments.countP Moment.isRefresh

theorem going_meet (inPhase : course.pacer.InPhase) (event : Event)
    (runs : (course.meet event).pacer.state ≠ .halted) :
    Going course (course.meet event) event.duration (course.momentsOf event) := by
  cases event with
  | elapse nanoseconds =>
      have ran : course.pacer.state ≠ .halted :=
        fun halted => runs (halted_meet halted (.elapse nanoseconds))
      obtain ⟨advanced, refreshes, last, finished⟩ :=
        (Pacer.passes_tick ran course.machine nanoseconds).lasted runs
      have clock : (course.pacer.tick course.machine nanoseconds).pacer.clock =
          course.pacer.clock + nanoseconds := by
        rw [advanced]
        rfl
      refine ⟨clock, ?_, [last],
        [(course.pacer.moments course.machine nanoseconds).countP Moment.isRefresh], ?_, ?_, rfl⟩
      · rw [momentsOf, refreshes, inPhase.refreshesIn_add, meet, clock]
      · rw [meet, finished]
        rfl
      · rw [List.map_singleton, List.map_singleton, Pacer.frames_tick finished]
  | press key => exact ⟨rfl, rfl, [], [], (List.append_nil _).symm, rfl, rfl⟩
  | release key => exact ⟨rfl, rfl, [], [], (List.append_nil _).symm, rfl, rfl⟩

theorem going_follow (inPhase : course.pacer.InPhase) (events : List Event)
    (runs : (course.follow events).pacer.state ≠ .halted) :
    Going course (course.follow events) (elapsed events) (course.moments events) := by
  induction events generalizing course with
  | nil => exact ⟨rfl, rfl, [], [], (List.append_nil _).symm, rfl, rfl⟩
  | cons event rest ih =>
      have runsBetween : (course.meet event).pacer.state ≠ .halted :=
        fun halted => runs (halted_follow halted rest)
      obtain ⟨clock, refreshes, reports, frames, results, shown, counted⟩ :=
        going_meet inPhase event runsBetween
      obtain ⟨clockBehind, refreshesBehind, reportsBehind, framesBehind, resultsBehind,
        shownBehind, countedBehind⟩ := ih (inPhase_meet inPhase event) runs
      refine ⟨?_, ?_, reports ++ reportsBehind, frames ++ framesBehind, ?_, ?_, ?_⟩
      · rw [elapsed_cons, ← Nat.add_assoc, ← clock]
        exact clockBehind
      · rw [moments, List.countP_append, ← Nat.add_assoc, refreshes]
        exact refreshesBehind
      · rw [List.map_append, ← List.append_assoc, ← results]
        exact resultsBehind
      · rw [List.map_append, List.map_append, shown, shownBehind]
      · rw [total_append, counted, countedBehind, moments, List.countP_append]

/-- As long as the refreshes of all reports are few, each report holds its number. -/
theorem frames_number? {reports : List Report} {frames : List Nat}
    (shown : reports.map Report.frames = frames.map .ofNat) (few : total id frames < framesLimit) :
    reports.map (fun report => report.frames.number?) = frames.map some := by
  have each : frames.map (fun number => (.ofNat number : Counter32).number?) = frames.map some := by
    apply List.map_congr_left
    intro number member
    exact Counter.number?_ofNat (Nat.lt_of_le_of_lt (le_total id member) few)
  calc reports.map (fun report => report.frames.number?)
      _ = (reports.map Report.frames).map Counter.number? := by rw [List.map_map]; rfl
      _ = (frames.map .ofNat).map Counter.number? := by rw [shown]
      _ = frames.map some := List.map_map.trans each

theorem rate_follow (course : Course) (events : List Event) :
    (course.follow events).pacer.rate = course.pacer.rate := by
  induction events generalizing course with
  | nil => rfl
  | cons event rest ih =>
      refine (ih (course.meet event)).trans ?_
      cases event with
      | elapse nanoseconds => exact course.pacer.rate_tick course.machine nanoseconds
      | press key => rfl
      | release key => rfl

end Course

/-! ### Timers -/

theorem Timers.toNat_countDown (value : UInt8) : (countDown value).toNat = value.toNat - 1 := by
  unfold countDown
  by_cases zero : value = 0
  · rw [if_pos zero, zero]
    rfl
  · have positive : value.toNat ≠ 0 := fun same => zero (UInt8.toNat_inj.mp same)
    have below := value.toNat_lt
    rw [if_neg zero, UInt8.toNat_sub]
    change (2 ^ 8 - 1 + value.toNat) % 2 ^ 8 = _
    omega

theorem Run.timers_refresh (run : Run) :
    run.refresh.machine.timers = run.machine.timers.decrement.1 := by
  rcases run with ⟨state, machine, report⟩
  cases state <;> rfl

theorem Moment.timers_after {moment : Moment} (noRefresh : moment.isRefresh = false)
    (noStep : moment.isStep = false) :
    moment.after.machine.timers = moment.found.machine.timers := by
  cases moment with
  | refresh run => cases noRefresh
  | press key run => rfl
  | release key run => rfl
  | slot run =>
      have waits : run.state ≠ .running := of_decide_eq_false noStep
      exact sameBut_after_of_wait waits .timers (by decide)

/-! ### The slots of a tick -/

theorem Moment.halted_after {moment : Moment} (halted : moment.found.state = .halted) :
    moment.after.state = .halted := by
  cases moment with
  | refresh run => exact (Run.refresh_of_halted run halted).1
  | press key run => exact halted
  | release key run => exact halted
  | slot run =>
      have blocked : run.slot? = none := Run.slot?_of_halted halted
      rw [after, blocked]
      exact halted

theorem Unfolds.going {run last : Run} {moments : List Moment} (unfolds : Unfolds run moments last)
    (runs : last.state ≠ .halted) : ∀ moment ∈ moments, moment.found.state ≠ .halted := by
  induction unfolds with
  | nil run =>
      intro moment member
      cases member
  | cons run moment rest last found follows ih =>
      intro other member
      rcases List.mem_cons.mp member with same | behind
      · intro halted
        rw [same] at halted
        have stays := follows.keeps (fun run => run.state = .halted)
          (fun _ _ => Moment.halted_after) (Moment.halted_after halted)
        exact runs stays.2
      · exact ih runs other behind

namespace Pacer

variable {pacer : Pacer} {machine : Machine} {nanoseconds : Nat}

/-- No more instructions are carried out in a tick than it has slots. -/
theorem countP_isStep_le (onTime : pacer.OnTime) :
    pacer.granted + (pacer.moments machine nanoseconds).countP Moment.isStep ≤
      (pacer.tick machine nanoseconds).pacer.granted := by
  rw [granted_tick machine nanoseconds onTime]
  exact Nat.add_le_add_left
    (List.countP_mono_left fun moment _ isStep => Moment.isSlot_of_isStep isStep) _

/-- There are as many if the machine does not wait and is not halted. -/
theorem countP_isStep_eq (onTime : pacer.OnTime)
    (going : (pacer.tick machine nanoseconds).pacer.state ≠ .halted)
    (ready : ∀ moment ∈ pacer.moments machine nanoseconds, moment.found.state.isWaiting = false) :
    pacer.granted + (pacer.moments machine nanoseconds).countP Moment.isStep =
      (pacer.tick machine nanoseconds).pacer.granted := by
  rw [granted_tick machine nanoseconds onTime]
  congr 1
  apply List.countP_congr
  intro moment member
  have runs := (pacer.unfolds_moments machine nanoseconds).going going moment member
  have idle := ready moment member
  cases moment with
  | slot run =>
      rcases run with ⟨state, machine, report⟩
      cases state with
      | running => exact Iff.rfl
      | awaitingKey x => cases idle
      | awaitingRefresh request => cases idle
      | halted => exact absurd rfl runs
  | refresh run => exact Iff.rfl
  | press key run => exact Iff.rfl
  | release key run => exact Iff.rfl

end Pacer

/-! ### The cadence -/

/-- The cadence of a whole run at a rate. -/
structure KeepsCadence (rate : UInt32) (start : Course) (events : List Event) : Prop where
  /-- The clockwork goes through the run and ends at the same place. -/
  clockwork : ∃ later,
    Clockwork.Course.follow? ⟨.ofRate rate, start.machine, []⟩ events = some later ∧
      Clockwork.Follows later (start.follow events)
  /-- A refresh takes one off each timer that is not zero, whatever the machine is doing. -/
  countsDown : ∀ run, Moment.refresh run ∈ start.moments events →
    (Moment.refresh run).after.machine.timers.delay.toNat = run.machine.timers.delay.toNat - 1 ∧
      (Moment.refresh run).after.machine.timers.sound.toNat = run.machine.timers.sound.toNat - 1
  /-- Beside refreshes only instructions touch the timers. -/
  leavesTimers : ∀ moment ∈ start.moments events, moment.isRefresh = false →
    moment.isStep = false → moment.after.machine.timers = moment.found.machine.timers
  /-- A tick reports at most one instruction for each slot that it grants. If it leaves the machine
  going and no moment finds it waiting, it reports exactly one for each. -/
  slots : ∀ earlier nanoseconds later report,
    events = earlier ++ .elapse nanoseconds :: later →
    let before := start.follow earlier
    let ticked := before.pacer.tick before.machine nanoseconds
    ticked.result = .ok report →
      ∃ instructions, report.instructions.number? = some instructions ∧
        before.pacer.granted + instructions ≤ ticked.pacer.granted ∧
        (ticked.pacer.state ≠ .halted →
          (∀ moment ∈ before.pacer.moments before.machine nanoseconds,
            moment.found.state.isWaiting = false) →
          before.pacer.granted + instructions = ticked.pacer.granted)
  /-- While the machine goes on, the clock tells the slots and the refreshes so far. -/
  totals : (start.follow events).pacer.state ≠ .halted →
    (start.follow events).pacer.clock = Course.elapsed events ∧
    (start.follow events).pacer.granted =
      (Course.elapsed events * (max rate 1).toNat + 500000000) / 1000000000 ∧
    (start.moments events).countP Moment.isRefresh = Course.elapsed events / 16666667 ∧
    ∃ (reports : List Report) (frames : List Nat),
      (start.follow events).results = reports.map .ok ∧
        reports.map (fun report => report.frames.number?) = frames.map some ∧
        total id frames = Course.elapsed events / 16666667

theorem keepsCadence (rate : UInt32) (profile : Profile) (filter : Filter) (tape : Tape)
    (source : ProgramSource) (events : List Event)
    (few : Course.elapsed events / 16666667 < 4294967296) :
    KeepsCadence rate (.boot rate profile filter tape source) events := by
  have onTime := Course.onTime_boot rate profile filter tape source
  have inPhase : (Course.boot rate profile filter tape source).pacer.InPhase :=
    Pacer.inPhase_ofRate rate
  have same : (Course.boot rate profile filter tape source).pacer.clock +
      Course.elapsed events = Course.elapsed events := Nat.zero_add _
  refine ⟨?_, ?_, ?_, ?_, ?_⟩
  · refine Course.follows_follow ⟨Clockwork.shows_ofRate rate, rfl, rfl⟩ onTime inPhase events ?_
    rw [same]
    exact few
  · intro run member
    rw [Moment.after, Run.unreported, Run.timers_refresh]
    exact ⟨Timers.toNat_countDown _, Timers.toNat_countDown _⟩
  · intro moment member
    exact Moment.timers_after
  · intro earlier nanoseconds later report cut before ticked finished
    have onTimeBefore : before.pacer.OnTime := Course.onTime_follow onTime earlier
    have atMost : before.pacer.granted +
        (before.pacer.moments before.machine nanoseconds).countP Moment.isStep ≤
          ticked.pacer.granted := Pacer.countP_isStep_le onTimeBefore
    have fewUpTo : ((Course.boot rate profile filter tape source).pacer.clock +
        Course.elapsed (earlier ++ [.elapse nanoseconds] ++ later)) / refreshInterval <
          framesLimit := by
      rw [← List.append_cons, ← cut, same]
      exact few
    have grantedFits := Course.granted_follow_lt onTime fewUpTo
    rw [Course.follow, List.foldl_append] at grantedFits
    change ticked.pacer.granted < 18446744073709551616 at grantedFits
    refine ⟨_, ?_, atMost, Pacer.countP_isStep_eq onTimeBefore⟩
    rw [Pacer.instructions_tick finished]
    exact Counter.number?_ofNat (by omega)
  · intro going
    obtain ⟨clock, refreshes, reports, frames, results, shown, added⟩ :=
      Course.going_follow inPhase events going
    rw [same] at clock
    have counted : ((Course.boot rate profile filter tape source).moments events).countP
        Moment.isRefresh = Course.elapsed events / 16666667 := by
      have fresh : (Course.boot rate profile filter tape source).pacer.clock / refreshInterval = 0 :=
        Nat.zero_div _
      rw [← clock, ← refreshes, fresh, Nat.zero_add]
    refine ⟨clock, ?_, counted, reports, frames, results,
      Course.frames_number? shown ?_, added.trans counted⟩
    · rw [Course.onTime_follow onTime events, clock, Course.rate_follow, Pacer.slotsBy,
        Nat.add_comm]
      rfl
    · rw [added, counted]
      exact few

/-- A program that sets the delay timer to five, waits for a key, and then goes round. -/
def waitingCourse : Course :=
  .boot 240 (Profile.ofPlatform "wait" .modern) .none ⟨fun _ => 0, 0⟩
    ⟨[0x60, 0x05, 0xF0, 0x15, 0xF1, 0x0A, 0x12, 0x06], none⟩

def waitingEvents : List Event :=
  [.elapse 20000000, .press 7, .elapse 30000000]

theorem keepsCadence_waiting :
    Course.elapsed waitingEvents / 16666667 < 4294967296 ∧
      KeepsCadence 240 waitingCourse waitingEvents ∧
      (waitingCourse.follow waitingEvents).pacer.state ≠ .halted ∧
      (waitingCourse.follow waitingEvents).pacer.granted = 12 ∧
      (waitingCourse.moments waitingEvents).countP Moment.isRefresh = 2 := by
  have few : Course.elapsed waitingEvents / 16666667 < 4294967296 := by decide
  have going : (waitingCourse.follow waitingEvents).pacer.state ≠ .halted := by decide +kernel
  have kept : KeepsCadence 240 waitingCourse waitingEvents := keepsCadence 240 _ _ _ _ _ few
  obtain ⟨_, granted, refreshes, _⟩ := kept.totals going
  exact ⟨few, kept, going, granted, refreshes⟩

end Chip8
