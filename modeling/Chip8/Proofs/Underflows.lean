import Chip8.Proofs.Halting
import Chip8.Proofs.Nesting
import Chip8.Proofs.Sounding

set_option autoImplicit false

/-!
Returns without an open call, from the step of the machine through the report of a stretch of time
to the count that a session keeps. A stretch that comes to a word that is no instruction loses its
report, and with it the returns that came before the word; otherwise none is lost. A program of
returns alone counts one at every slot, and so comes past the end of its counter in time.

Main statement: since its machine was made, a session has counted the returns that were carried out
less those that were lost.
-/

namespace Chip8

/-- A slot at which the word 00EE is carried out while no call is open. -/
def Moment.isUnderflow : Moment → Bool
  | .slot run => run.state = .running ∧ run.machine.nextWord = 0x00EE ∧ run.machine.stack = []
  | _ => false

/-! ### Instructions -/

namespace Machine

/-- Nothing but a return tells of a missing call. -/
theorem underflowsOf_perform (machine : Machine) {instruction : Instruction}
    (noReturn : instruction ≠ .ret) :
    Run.underflowsOf (machine.perform instruction).2 = 0 := by
  cases instruction with
  | ret => exact absurd rfl noReturn
  | draw x y rows =>
      rw [perform, drawOrWait]
      split <;> rfl
  | _ => rfl

theorem underflowsOf_step {machine stepped : Machine} {outcome : Outcome}
    (step : machine.step = (stepped, .ok outcome)) :
    Run.underflowsOf outcome =
      (decide (machine.nextWord = 0x00EE ∧ machine.stack = [])).toNat := by
  by_cases word : machine.nextWord = 0x00EE
  · rw [step_return word] at step
    obtain ⟨_, same⟩ := Prod.mk.inj step
    cases same
    cases waiting : machine.stack with
    | nil =>
        have empty : machine.advance.stack = [] := waiting
        rw [returnFromCall_of_nil machine.advance empty, decide_eq_true ⟨word, rfl⟩]
        rfl
    | cons back rest =>
        have opened : machine.advance.stack = back :: rest := waiting
        rw [returnFromCall_of_cons machine.advance opened,
          decide_eq_false fun both => List.cons_ne_nil back rest both.2]
        rfl
  · obtain ⟨instruction, next, performed⟩ := perform_of_step step
    have noReturn : instruction ≠ .ret := by
      rintro rfl
      exact word (instruction?_eq_ret_iff.mp next)
    have none := machine.advance.underflowsOf_perform noReturn
    rw [performed] at none
    rw [none, decide_eq_false fun both => word both.1]
    rfl

end Machine

/-! ### Stretches of time -/

/-- The report counts the returns without an open call. -/
theorem Run.counts_isUnderflow : Counts Report.underflows Moment.isUnderflow where
  lost := by
    intro run blocked
    refine decide_eq_false fun underflow => ?_
    have runs : run.state = .running := underflow.1
    rw [slot?, runs] at blocked
    cases blocked
  used := by
    intro run later use
    cases use with
    | took x machine waits found =>
        have noUnderflow : (Moment.slot run.unreported).isUnderflow = false := by
          refine decide_eq_false fun underflow => ?_
          have runs : run.state = .running := underflow.1
          rw [runs] at waits
          cases waits
        rw [noUnderflow]
        exact (Counter.add_zero _).symm
    | carried stepped outcome runs step =>
        have kind : (Moment.slot run.unreported).isUnderflow =
            decide (run.machine.nextWord = 0x00EE ∧ run.machine.stack = []) :=
          decide_eq_decide.mpr (and_iff_right runs)
        rw [(counts_follow _ outcome).2.2, kind, ← Machine.underflowsOf_step step]
        rfl
  refreshed := by
    rintro ⟨state, machine, report⟩
    cases state <;> rfl

theorem Pacer.unknown_of_tick_fault {pacer : Pacer} {machine : Machine} {nanoseconds : Nat}
    {fault : Fault} (failed : (pacer.tick machine nanoseconds).result = .error fault) :
    ∃ address word, fault = .unknownOpcode address word := by
  have unknown : ∀ run later fault, True → Run.SlotUse run later (some fault) →
      ∃ address word, fault = .unknownOpcode address word := by
    intro run later fault _ use
    cases use with
    | failed stepped fault runs step => exact ⟨_, _, (Machine.step_error step).2⟩
  have kept := tick_keeps (fun _ _ _ _ => trivial) unknown (fun _ _ => trivial) pacer machine
    nanoseconds trivial
  cases ticked : pacer.tick machine nanoseconds with
  | mk later last result =>
      rw [ticked] at failed kept
      cases failed
      obtain ⟨_, cause⟩ := kept
      exact cause

/-! ### A program that returns at once -/

/-- It runs at the start of its program, which returns at once, and no call is open. -/
structure Run.Returning (run : Run) : Prop where
  state : run.state = .running
  word : run.machine.memory.word Memory.programStart = 0x00EE
  pc : run.machine.pc = Memory.programStart
  stack : run.machine.stack = []

theorem Run.Returning.nextWord {run : Run} (returning : run.Returning) :
    run.machine.nextWord = 0x00EE := by
  rw [Machine.nextWord, returning.pc]
  exact returning.word

/-- Such a return leads to itself. -/
theorem Moment.returning_after {moment : Moment} (returning : moment.found.Returning) :
    moment.after.Returning := by
  have word := returning.nextWord
  obtain ⟨runs, program, start, empty⟩ := returning
  cases moment with
  | slot run =>
      rcases run with ⟨state, machine, report⟩
      cases runs
      have stepped : machine.step = ({ machine with pc := 0x200 }, .ok .underflow) :=
        Machine.step_underflow word empty
      simp only [Moment.after, Run.slot?, Run.execute, stepped]
      exact ⟨rfl, program, rfl, empty⟩
  | refresh run =>
      rcases run with ⟨state, machine, report⟩
      cases runs
      exact ⟨rfl, program, start, empty⟩
  | press key run => exact ⟨runs, program, start, empty⟩
  | release key run => exact ⟨runs, program, start, empty⟩

/-- A program that returns at once does so at every slot. -/
theorem Pacer.tick_returning {pacer : Pacer} {machine : Machine} (onTime : pacer.OnTime)
    (returning : (pacer.runOf machine).Returning) (nanoseconds : Nat) :
    let ticked := pacer.tick machine nanoseconds
    (ticked.pacer.runOf ticked.machine).Returning ∧
      ticked.pacer = pacer.advance nanoseconds .running ∧
      ∃ report, ticked.result = .ok report ∧
        report.underflows = .ofNat (ticked.pacer.granted - pacer.granted) := by
  intro ticked
  obtain ⟨found, last⟩ := (pacer.unfolds_moments machine nanoseconds).keeps Run.Returning
    (fun _ _ => Moment.returning_after) returning
  have runs : pacer.state = .running := returning.state
  have runsOn : ticked.pacer.state = .running := last.state
  have going : pacer.state ≠ .halted := by
    rw [runs]
    exact RunState.noConfusion
  have goesOn : ticked.pacer.state ≠ .halted := by
    rw [runsOn]
    exact RunState.noConfusion
  obtain ⟨advanced, _, report, finished⟩ := (passes_tick going machine nanoseconds).lasted goesOn
  have everySlot : (pacer.moments machine nanoseconds).countP Moment.isUnderflow =
      (pacer.moments machine nanoseconds).countP Moment.isSlot := by
    apply List.countP_congr
    intro moment member
    have here := found moment member
    cases moment with
    | slot run =>
        refine iff_of_true ?_ rfl
        exact decide_eq_true ⟨here.state, here.nextWord, here.stack⟩
    | refresh run => exact Iff.rfl
    | press key run => exact Iff.rfl
    | release key run => exact Iff.rfl
  refine ⟨last, advanced.trans (congrArg _ runsOn), report, finished, ?_⟩
  rw [counted_tick Run.counts_isUnderflow rfl finished, everySlot,
    granted_tick machine nanoseconds onTime, Nat.add_sub_cancel_left]

/-- One count for each slot, in two ticks as in the tick of both times. -/
theorem Pacer.ticks_returning {pacer : Pacer} {machine : Machine} (onTime : pacer.OnTime)
    (returning : (pacer.runOf machine).Returning) (first second : Nat) :
    let earlier := pacer.tick machine first
    let later := earlier.pacer.tick earlier.machine second
    let whole := pacer.tick machine (first + second)
    whole.pacer.isRunning = true ∧
      ∃ total before after,
        whole.result = .ok total ∧ earlier.result = .ok before ∧ later.result = .ok after ∧
        before.underflows =
          .ofNat (slotsBy pacer.rate (pacer.clock + first) - pacer.granted) ∧
        after.underflows =
          .ofNat (slotsBy pacer.rate (pacer.clock + first + second) -
            slotsBy pacer.rate (pacer.clock + first)) ∧
        total.underflows =
          .ofNat (slotsBy pacer.rate (pacer.clock + (first + second)) - pacer.granted) := by
  intro earlier later whole
  obtain ⟨between, earlierPacer, before, earlierReport, earlierCount⟩ :=
    tick_returning onTime returning first
  obtain ⟨_, laterPacer, after, laterReport, laterCount⟩ :=
    tick_returning (onTime.tick machine first) between second
  obtain ⟨last, wholePacer, total, wholeReport, wholeCount⟩ :=
    tick_returning onTime returning (first + second)
  rw [laterPacer, earlierPacer] at laterCount
  rw [earlierPacer] at earlierCount
  rw [wholePacer] at wholeCount
  refine ⟨?_, total, before, after, wholeReport, earlierReport, laterReport, earlierCount,
    laterCount, wholeCount⟩
  rw [isRunning_iff]
  intro halted
  have runs : whole.pacer.state = .running := last.state
  rw [runs] at halted
  cases halted

def returning : Machine :=
  ((Machine.ofProfile (Profile.ofPlatform "returning" .modern) .none ⟨fun _ => 0, 0⟩).load
    ⟨[0x00, 0xEE], none⟩).1

/-- The counts of two ticks can fit while that of the tick of both times does not. -/
theorem Pacer.ticks_returning_ranOver :
    let pacer := ofRate 4294967295
    let earlier := pacer.tick returning 1000000000
    let later := earlier.pacer.tick earlier.machine 1
    let whole := pacer.tick returning (1000000000 + 1)
    pacer.Reached returning ∧ whole.pacer.isRunning = true ∧
      ∃ total before after,
        whole.result = .ok total ∧ earlier.result = .ok before ∧ later.result = .ok after ∧
        before.underflows.number? = some 4294967295 ∧ after.underflows.number? = some 4 ∧
        total.underflows.number? = none := by
  have reached : (ofRate 4294967295).Reached returning :=
    .fresh 4294967295 (Profile.ofPlatform "returning" .modern) .none ⟨fun _ => 0, 0⟩
      ⟨[0x00, 0xEE], none⟩ returning 2 rfl
  have program : returning.memory.word Memory.programStart = 0x00EE ∧
      returning.pc = Memory.programStart ∧ returning.stack = [] := by
    decide +kernel
  obtain ⟨runs, total, before, after, wholeReport, earlierReport, laterReport, earlierCount,
    laterCount, wholeCount⟩ := ticks_returning reached.onTime
      ⟨rfl, program.1, program.2.1, program.2.2⟩ 1000000000 1
  have upToFirst : slotsBy (ofRate 4294967295).rate ((ofRate 4294967295).clock + 1000000000) =
      4294967295 := by
    decide +kernel
  have upToSecond : slotsBy (ofRate 4294967295).rate
      ((ofRate 4294967295).clock + 1000000000 + 1) = 4294967299 := by
    decide +kernel
  rw [upToFirst] at earlierCount laterCount
  rw [upToSecond] at laterCount
  rw [← Nat.add_assoc, upToSecond] at wholeCount
  refine ⟨reached, runs, total, before, after, wholeReport, earlierReport, laterReport, ?_, ?_, ?_⟩
  · rw [earlierCount]
    exact Counter.number?_ofNat (by decide)
  · rw [laterCount]
    exact Counter.number?_ofNat (by decide)
  · rw [wholeCount]
    exact congrArg Counter.number? (Counter.ofNat_of_le (by decide))

namespace Session

/-- A tick that comes to a word that is no instruction. -/
def comesToFault (session : Session) : Request → Bool
  | .tick devices elapsed =>
      match (session.tick devices elapsed).result with
      | .error (.unknownOpcode _ _) => true
      | _ => false
  | _ => false

/-- The returns without an open call that a request carries out. -/
def underflowsIn (session : Session) (request : Request) : Nat :=
  (session.momentsOf request).countP Moment.isUnderflow

/-- Those of them that are lost with a report. -/
def lostIn (session : Session) (request : Request) : Nat :=
  if session.comesToFault request then session.underflowsIn request else 0

/-- A measure of the requests of a history, added up. -/
def tally (measure : Session → Request → Nat) (session : Session) : List Request → Nat
  | [] => 0
  | request :: later =>
      measure session request + tally measure (session.handle request).1 later

theorem tally_eq_zero_iff (measure : Session → Request → Nat) (session : Session)
    (requests : List Request) :
    tally measure session requests = 0 ↔
      ∀ earlier request later, requests = earlier ++ request :: later →
        measure (session.after earlier) request = 0 := by
  induction requests generalizing session with
  | nil =>
      refine iff_of_true rfl fun earlier request later split => ?_
      cases earlier <;> cases split
  | cons first rest ih =>
      rw [tally, Nat.add_eq_zero_iff, ih]
      constructor
      · rintro ⟨here, behind⟩ earlier request later split
        cases earlier with
        | nil =>
            obtain ⟨rfl, rfl⟩ := List.cons.inj split
            exact here
        | cons other earlier =>
            obtain ⟨rfl, rfl⟩ := List.cons.inj split
            exact behind earlier request later rfl
      · intro zero
        refine ⟨zero [] first rest rfl, fun earlier request later split => ?_⟩
        exact zero (first :: earlier) request later (congrArg (first :: ·) split)

instance (session : Session) : (request : Request) → Decidable (session.Boots request)
  | .load _ _ | .reset => inferInstanceAs (Decidable (_ = true))
  | .stop | .tick _ _ => inferInstanceAs (Decidable False)

/-! ### One request -/

variable {session : Session} {engine : Engine}

/-- Whether the session that a request leaves has counted what the request has carried out, but
for what is lost. -/
def Counted (session : Session) (engine : Engine) (request : Request) : Prop :=
  ∃ later shown, (session.handle request).1.engine = some later ∧
    later.underflows = engine.underflows + .ofNat shown ∧
    shown + session.lostIn request = session.underflowsIn request

/-- A request that lets no time go by and keeps the machine has nothing to count. -/
theorem counted_of_idle {request : Request} (later : Engine)
    (idle : session.momentsOf request = [])
    (kept : (session.handle request).1.engine = some later)
    (same : later.underflows = engine.underflows) : session.Counted engine request := by
  have nothing : session.underflowsIn request = 0 := by
    rw [underflowsIn, idle, List.countP_nil]
  refine ⟨later, 0, kept, ?_, ?_⟩
  · rw [same, Counter.add_zero]
  · rw [lostIn, nothing, ite_self]

theorem runEngine_of_fault {pacer : Pacer} {machine : Machine} {fault : Fault} {elapsed : Nat}
    (ticked : engine.pacer.tick engine.machine elapsed = ⟨pacer, machine, .error fault⟩)
    (session : Session) (devices : Devices) :
    (session.runEngine devices engine elapsed).result = .error fault ∧
      (session.runEngine devices engine elapsed).session.engine =
        some ⟨machine, pacer.stop, engine.underflows⟩ := by
  unfold runEngine
  rw [ticked]
  exact ⟨rfl, rfl⟩

theorem runEngine_of_report {pacer : Pacer} {machine : Machine} {report : Report} {elapsed : Nat}
    (ticked : engine.pacer.tick engine.machine elapsed = ⟨pacer, machine, .ok report⟩)
    (session : Session) (devices : Devices) :
    (session.runEngine devices engine elapsed).result = (showFrame devices report).2 ∧
      (session.runEngine devices engine elapsed).session.engine =
        some ⟨machine, pacer, engine.underflows + report.underflows⟩ := by
  unfold runEngine
  rw [ticked]
  exact ⟨rfl, rfl⟩

theorem counted_of_proceed (loaded : session.engine = some engine) {devices : Devices}
    {keypad : Keypad} (polled : devices.poll engine.machine.keypad = (keypad, .ok .proceed))
    (elapsed : Nat) : session.Counted engine (.tick devices elapsed) := by
  let asked : Session := { session with engine := some (engine.keyed keypad) }
  have moments := momentsOf_of_proceed loaded polled elapsed
  have went := tick_of_proceed loaded polled elapsed
  have left : (session.handle (.tick devices elapsed)).1.engine =
      (asked.runEngine devices (engine.keyed keypad) elapsed).session.engine := by
    rw [handle, went]
  have answered : (session.tick devices elapsed).result =
      (asked.runEngine devices (engine.keyed keypad) elapsed).result := by
    rw [went]
  rcases ticked : (engine.keyed keypad).pacer.tick (engine.keyed keypad).machine elapsed with
    ⟨pacer, machine, fault | report⟩
  · obtain ⟨failed, stopped⟩ := runEngine_of_fault ticked asked devices
    obtain ⟨address, word, rfl⟩ := Pacer.unknown_of_tick_fault (congrArg Ticked.result ticked)
    have faulty : session.comesToFault (.tick devices elapsed) = true := by
      rw [comesToFault, answered, failed]
    refine ⟨_, 0, left.trans stopped, (Counter.add_zero _).symm, ?_⟩
    rw [lostIn, if_pos faulty, Nat.zero_add]
  · obtain ⟨shown, counting⟩ := runEngine_of_report ticked asked devices
    have faultless : session.comesToFault (.tick devices elapsed) = false := by
      rw [comesToFault, answered, shown]
      rcases showFrame_answer devices report with proceeds | ⟨failure, failed⟩
      · rw [proceeds]
      · rw [failed]
    have reported := Pacer.counted_tick Run.counts_isUnderflow rfl (congrArg Ticked.result ticked)
    refine ⟨_, session.underflowsIn (.tick devices elapsed), left.trans counting, ?_, ?_⟩
    · rw [underflowsIn, moments]
      exact congrArg (engine.underflows + ·) reported
    · rw [lostIn, faultless, if_neg Bool.false_ne_true, Nat.add_zero]

/-- While a machine is loaded, a request counts the returns that it carries out, but for those that
are lost. A request that puts no new machine in its place keeps the machine or takes it away. -/
theorem counted_handle (loaded : session.engine = some engine) {request : Request}
    (noBoot : ¬ session.Boots request) :
    (session.handle request).1.engine = none ∨ session.Counted engine request := by
  cases request with
  | load source profile =>
      left
      rw [Boots, load_eq] at noBoot
      rw [handle, load_eq]
      cases built : session.build source profile with
      | error fault => rfl
      | ok new =>
          rw [built] at noBoot
          exact absurd rfl noBoot
  | reset =>
      cases remembered : session.program with
      | none =>
          right
          refine counted_of_idle engine rfl ?_ rfl
          rw [handle, reset_of_forgotten remembered]
          exact loaded
      | some program =>
          left
          rw [Boots, reset_of_remembered remembered] at noBoot
          rw [handle, reset_of_remembered remembered]
          cases booted : session.emptied.boot program with
          | error fault => rfl
          | ok new =>
              rw [booted] at noBoot
              exact absurd rfl noBoot
  | stop =>
      right
      refine counted_of_idle { engine with pacer := engine.pacer.stop } rfl ?_ rfl
      rw [handle, stop, loaded]
  | tick devices elapsed =>
      right
      rcases polled : devices.poll engine.machine.keypad with ⟨keypad, failure | answer⟩
      · refine counted_of_idle (engine.keyed keypad)
          (momentsOf_of_failure loaded polled elapsed) ?_ rfl
        rw [handle, tick_of_failure loaded polled]
      · cases answer with
        | quit =>
            have idle : session.momentsOf (.tick devices elapsed) = [] := by
              unfold momentsOf
              simp only [loaded, polled]
            refine counted_of_idle
              { engine.keyed keypad with pacer := engine.pacer.stop } idle ?_ rfl
            rw [handle, tick_of_quit loaded polled]
        | proceed => exact counted_of_proceed loaded polled elapsed

/-! ### Histories -/

theorem underflows_of_loaded (loaded : session.engine = some engine) :
    session.underflows = engine.underflows := by
  rw [underflows, loaded]
  rfl

theorem underflows_of_unloaded (unloaded : session.engine = none) :
    session.underflows = .ofNat 0 := by
  rw [underflows, unloaded]
  rfl

theorem counted_after (loaded : session.engine = some engine) {requests : List Request}
    (never : Never Boots session requests) :
    (session.after requests).engine = none ∨
      ∃ shown, (session.after requests).underflows = engine.underflows + .ofNat shown ∧
        shown + session.tally lostIn requests = session.tally underflowsIn requests := by
  induction requests generalizing session engine with
  | nil =>
      refine .inr ⟨0, ?_, rfl⟩
      rw [Counter.add_zero]
      exact underflows_of_loaded loaded
  | cons request later ih =>
      obtain ⟨noBoot, neverLater⟩ := never
      rcases counted_handle loaded noBoot with
        unloaded | ⟨next, shown, loadedThen, counted, accounts⟩
      · exact .inl (unloaded_after unloaded neverLater).1
      · refine (ih loadedThen neverLater).imp_right fun countedLater => ?_
        obtain ⟨shownLater, countedBehind, accountsBehind⟩ := countedLater
        refine ⟨shown + shownLater, ?_, ?_⟩
        · rw [after, countedBehind, counted, Counter.ofNat_add, Counter.add_assoc]
        · rw [tally, tally]
          omega

/-- A new machine starts with a count of zero. -/
theorem underflows_of_boots {request : Request} (boots : session.Boots request) :
    ∃ engine, (session.handle request).1.engine = some engine ∧ engine.underflows = .ofNat 0 := by
  cases request with
  | load source profile =>
      obtain ⟨engine, length, booted, loaded⟩ := loaded_of_isOk boots
      exact ⟨engine, congrArg Session.engine loaded,
        congrArg Engine.underflows (engine_of_booted booted)⟩
  | reset =>
      cases remembered : session.program with
      | none =>
          rw [Boots, reset_of_forgotten remembered] at boots
          cases boots
      | some program =>
          have restarted := reset_of_remembered remembered
          cases booted : session.emptied.boot program with
          | error fault =>
              rw [Boots, restarted, booted] at boots
              cases boots
          | ok new =>
              rw [booted] at restarted
              exact ⟨new.1, congrArg (fun reply => reply.session.engine) restarted,
                congrArg Engine.underflows (engine_of_booted booted)⟩
  | stop => exact boots.elim
  | tick devices elapsed => exact boots.elim

/-- What a session has counted since its machine was new. -/
structure CountsFrom (booted : Session) (later : List Request) : Prop where
  /-- What is carried out is counted or lost. -/
  counted : (booted.after later).isLoaded = true →
    ∃ shown, (booted.after later).underflows = .ofNat shown ∧
      shown + booted.tally lostIn later = booted.tally underflowsIn later
  /-- As long as it fits, the count is exact if and only if no tick that comes to a word that is no
  instruction has carried out a return without an open call before. -/
  exact_iff : (booted.after later).isLoaded = true →
    booted.tally underflowsIn later < 4294967296 →
    ((booted.after later).underflows.number? = some (booted.tally underflowsIn later) ↔
      ∀ earlier request rest, later = earlier ++ request :: rest →
        (booted.after earlier).comesToFault request = true →
        (booted.after earlier).underflowsIn request = 0)
  unloaded : (booted.after later).isLoaded = false →
    (booted.after later).underflows = .ofNat 0

/-- Since its machine was made by a load or a reset, a session has counted the returns that found
no open call, less those that were lost. -/
theorem underflows_counted {boot : Request} (boots : session.Boots boot)
    {later : List Request} (never : Never Boots (session.handle boot).1 later) :
    (session.handle boot).1.CountsFrom later := by
  obtain ⟨engine, loaded, fromZero⟩ := underflows_of_boots boots
  have counted : ((session.handle boot).1.after later).isLoaded = true →
      ∃ shown, ((session.handle boot).1.after later).underflows = .ofNat shown ∧
        shown + (session.handle boot).1.tally lostIn later =
          (session.handle boot).1.tally underflowsIn later := by
    intro isLoaded
    rcases counted_after loaded never with unloaded | counted
    · rw [Session.isLoaded, unloaded] at isLoaded
      cases isLoaded
    · rw [fromZero] at counted
      obtain ⟨shown, counted, accounts⟩ := counted
      exact ⟨shown, counted.trans (Counter.zero_add _), accounts⟩
  refine ⟨counted, ?_, ?_⟩
  · intro isLoaded few
    obtain ⟨shown, holds, accounts⟩ := counted isLoaded
    have fits : shown < 4294967296 := by omega
    rw [holds, Counter.number?_ofNat fits, Option.some.injEq, ← accounts, Nat.left_eq_add,
      tally_eq_zero_iff]
    refine forall_congr' fun earlier => forall_congr' fun request => forall_congr' fun rest =>
      imp_congr_right fun _ => ?_
    rw [lostIn, ite_eq_right_iff]
  · intro isUnloaded
    apply underflows_of_unloaded
    rw [← Option.not_isSome_iff_eq_none]
    exact Bool.eq_false_iff.mp isUnloaded

/-- It counts V0 up and returns until V0 is three, and then comes to an unknown word. -/
def returnsThenFault : Request :=
  .load ⟨[0x70, 0x01, 0x30, 0x03, 0x00, 0xEE, 0xFF, 0xFF], none⟩
    ((Profile.ofPlatform "returns" .modern).withRate 300)

/-- Five slots each. The first return is in the first tick, the second one and the unknown word are
in the second. -/
def twoTicks : List Request :=
  [.tick quietDevices refreshInterval, .tick quietDevices refreshInterval]

def returnsBooted : Session :=
  ((start .none ⟨fun _ => 0, 0⟩).handle returnsThenFault).1

private theorem returnsFacts :
    (start .none ⟨fun _ => 0, 0⟩).Boots returnsThenFault ∧ Never Boots returnsBooted twoTicks ∧
      (returnsBooted.after twoTicks).isLoaded = true ∧
      (returnsBooted.after twoTicks).underflows.number? = some 1 ∧
      returnsBooted.tally underflowsIn twoTicks = 2 := by
  decide +kernel

/-- The second tick loses a return. -/
theorem returnsThenFault_uncounted :
    (start .none ⟨fun _ => 0, 0⟩).Boots returnsThenFault ∧ Never Boots returnsBooted twoTicks ∧
      (returnsBooted.after twoTicks).isLoaded = true ∧
      (returnsBooted.after twoTicks).underflows.number? ≠
        some (returnsBooted.tally underflowsIn twoTicks) := by
  obtain ⟨boots, never, loaded, counted, carriedOut⟩ := returnsFacts
  refine ⟨boots, never, loaded, ?_⟩
  rw [counted, carriedOut]
  decide

theorem underflows_counted_returnsThenFault :
    (start .none ⟨fun _ => 0, 0⟩).Boots returnsThenFault ∧ Never Boots returnsBooted twoTicks ∧
      returnsBooted.CountsFrom twoTicks ∧
      ∃ shown, (returnsBooted.after twoTicks).underflows = .ofNat shown ∧
        shown + returnsBooted.tally lostIn twoTicks = 2 := by
  obtain ⟨boots, never, loaded, _, carriedOut⟩ := returnsFacts
  have counts : returnsBooted.CountsFrom twoTicks := underflows_counted boots never
  obtain ⟨shown, counted, accounts⟩ := counts.counted loaded
  exact ⟨boots, never, counts, shown, counted, accounts.trans carriedOut⟩

end Session
end Chip8
