import Chip8.Proofs.History
import Chip8.Proofs.Stretches
import Mathlib.Data.List.Induction

set_option autoImplicit false

/-!
The tone as a device hears it, against the sound timer. A device that knows whether a tone was
heard before some edges knows it behind them (`heard`). Instructions, refreshes and the end of the
program tell every edge of the sound timer, so a tick without a fault keeps what is heard equal to
what sounds.

Main statement: the device and the session disagree exactly while a stop is lost, that is from a
tick whose fault took the report of a stop with it until the next tone call.
-/

namespace Chip8

/-- Whether a tone is heard behind some edges. -/
def heard (before : Bool) (tones : List Tone) : Bool :=
  tones.foldl (fun _ tone => tone == .start) before

@[simp] theorem heard_nil (before : Bool) : heard before [] = before := rfl

theorem heard_append (before : Bool) (earlier later : List Tone) :
    heard before (earlier ++ later) = heard (heard before earlier) later :=
  List.foldl_append

theorem heard_of_ne_nil {tones : List Tone} (some : tones ≠ []) (before other : Bool) :
    heard before tones = heard other tones := by
  cases tones with
  | nil => exact absurd rfl some
  | cons tone later => rfl

theorem heard_eq_true_iff (tones : List Tone) :
    heard false tones = true ↔ tones.getLast? = some .start := by
  rcases List.eq_nil_or_concat tones with none | ⟨earlier, tone, rfl⟩
  · subst none
    simp
  · rw [List.concat_eq_append, heard_append, List.getLast?_concat]
    cases tone <;> simp [heard]

namespace Timers

@[simp] theorem edge_self (value : UInt8) : edge value value = none := by
  unfold edge
  split <;> rfl

theorem heard_edge (sounds : Bool) (before after : UInt8)
    (starts : before = 0 → after ≠ 0 → sounds = true) :
    heard (sounds && before != 0) (edge before after).toList = (sounds && after != 0) := by
  unfold edge
  by_cases silentAfter : after = 0
  · by_cases silentBefore : before = 0 <;> simp [silentBefore, silentAfter, heard]
  · have positive : (after != 0) = true := bne_iff_ne.mpr silentAfter
    by_cases silentBefore : before = 0
    · simp [silentBefore, silentAfter, positive, starts silentBefore silentAfter, heard]
    · have sounded : (before != 0) = true := bne_iff_ne.mpr silentBefore
      simp [silentBefore, silentAfter, positive, sounded]

@[simp] theorem countDown_zero : countDown 0 = 0 := rfl

end Timers

/-! ### Instructions -/

namespace Machine

def KeepsSound (before after : Machine) : Prop :=
  after.timers.sound = before.timers.sound ∧ after.tone = before.tone

theorem keepsSound_perform (machine : Machine) {instruction : Instruction}
    (other : ∀ x, instruction ≠ .setSound x) :
    machine.KeepsSound (machine.perform instruction).1 := by
  have same := machine.perform_sameBut instruction
  cases instruction with
  | setSound x => exact absurd rfl (other x)
  | setDelay x => exact ⟨rfl, rfl⟩
  | _ =>
      -- no other instruction lists the timers or the tone
      have timers := same .timers (by simp [Instruction.changes])
      exact ⟨congrArg Timers.sound timers, same .tone (by simp [Instruction.changes])⟩

theorem tone_perform (machine : Machine) (instruction : Instruction) :
    (machine.perform instruction).1.tone =
      (Timers.edge machine.timers.sound (machine.perform instruction).1.timers.sound).or
        machine.tone := by
  by_cases sets : ∃ x, instruction = .setSound x
  · obtain ⟨x, rfl⟩ := sets
    rfl
  · obtain ⟨sound, tone⟩ := machine.keepsSound_perform (not_exists.mp sets)
    rw [sound, tone, Timers.edge_self]
    rfl

theorem tone_step {machine stepped : Machine} {outcome : Outcome} (settled : machine.tone = none)
    (step : machine.step = (stepped, .ok outcome)) :
    stepped.tone = Timers.edge machine.timers.sound stepped.timers.sound := by
  obtain ⟨instruction, _, performed⟩ := perform_of_step step
  have told := tone_perform machine.advance instruction
  rw [performed] at told
  change _ = (Timers.edge machine.timers.sound _).or machine.tone at told
  rw [settled, Option.or_none] at told
  exact told

/-- Only the end of the program ends it. -/
theorem instruction_of_exit {machine : Machine} {instruction : Instruction}
    (ended : (machine.perform instruction).2 = .exit) : instruction = .exit := by
  cases instruction with
  | exit => rfl
  | ret =>
      rw [perform, returnFromCall] at ended
      split at ended <;> cases ended
  | draw x y rows =>
      rw [perform, drawOrWait] at ended
      split at ended <;> cases ended
  | _ => cases ended

theorem takeKey?_sound {machine taken : Machine} {x : Register}
    (found : machine.takeKey? x = some taken) : machine.KeepsSound taken := by
  obtain ⟨_, _, rfl⟩ := Option.map_eq_some_iff.mp found
  exact ⟨rfl, rfl⟩

end Machine

/-! ### Slots and refreshes -/

namespace Run

def sound (run : Run) : UInt8 :=
  run.machine.timers.sound

theorem tones_toList (report : Report) (instructions : Counter64) (frames underflows : Counter32)
    (edge : Option Tone) (frame : Option Frame) :
    (report ++
      (⟨instructions, frames, edge.toList.toArray, underflows, frame⟩ : Report)).tones.toList
      = report.tones.toList ++ edge.toList := by
  change (report.tones ++ edge.toList.toArray).toList = _
  rw [Array.toList_append]

/-- A slot tells the edge between the values that it finds and leaves, and keeps none back. -/
theorem tones_slotUse {run later : Run} (use : SlotUse run later none)
    (settled : run.machine.tone = none) :
    later.machine.tone = none ∧
      later.report.tones.toList =
        run.report.tones.toList ++ (Timers.edge run.sound later.sound).toList := by
  cases use with
  | took x machine waits found =>
      obtain ⟨sound, tone⟩ := Machine.takeKey?_sound found
      refine ⟨tone.trans settled, ?_⟩
      change _ = _ ++ (Timers.edge run.machine.timers.sound machine.timers.sound).toList
      rw [sound, Timers.edge_self]
      exact (List.append_nil _).symm
  | carried stepped outcome runs step =>
      have edge : stepped.tone = Timers.edge run.sound stepped.timers.sound :=
        Machine.tone_step settled step
      have told : (run.report ++ instructionReport stepped.takeTone.2
          (underflowsOf outcome)).tones.toList =
            run.report.tones.toList ++ (Timers.edge run.sound stepped.timers.sound).toList := by
        rw [← edge]
        exact tones_toList _ _ _ _ _ _
      by_cases ends : outcome = .exit
      · -- the end tells an edge of its own behind that of its instruction, which has none
        subst ends
        obtain ⟨instruction, _, performed⟩ := Machine.perform_of_step step
        have exits := Machine.instruction_of_exit (congrArg Prod.snd performed)
        subst exits
        have same : stepped.timers.sound = run.sound :=
          (congrArg (fun done => done.1.timers.sound) performed).symm
        rw [same, Timers.edge_self, Option.toList_none, List.append_nil] at told
        refine ⟨rfl, ?_⟩
        change (_ ++ toneReport (Timers.edge stepped.timers.sound 0)).tones.toList = _
        rw [same, toneReport, Report.none, tones_toList, told]
        rfl
      · cases outcome <;> first | exact ⟨rfl, told⟩ | exact absurd rfl ends

theorem tones_refresh (run : Run) :
    run.refresh.machine.tone = run.machine.tone ∧
      run.refresh.report.tones.toList =
        run.report.tones.toList ++ (Timers.edge run.sound run.refresh.sound).toList := by
  rcases run with ⟨state, machine, report⟩
  cases state <;> exact ⟨rfl, tones_toList _ _ _ _ _ _⟩

/-! ### Ticks -/

def sounds (run : Run) : Bool :=
  run.state != .halted && run.machine.timers.isSounding

/-- No edge waits in the machine, and from what was heard before the report one hears what
sounds now. -/
def Told (before : Bool) (run : Run) : Prop :=
  run.machine.tone = none ∧ heard before run.report.tones.toList = run.sounds

private theorem state_slotUse {run later : Run} (use : SlotUse run later none) :
    run.state ≠ .halted ∧ (later.state = .halted → later.sound = 0) := by
  cases use with
  | took x machine waits found =>
      rw [waits]
      exact ⟨nofun, nofun⟩
  | carried stepped outcome runs step =>
      rw [runs]
      refine ⟨nofun, ?_⟩
      cases outcome with
      | exit => exact fun _ => rfl
      | _ => exact nofun

theorem Told.slotUse {before : Bool} {run later : Run} (told : Told before run)
    (use : SlotUse run later none) : Told before later := by
  obtain ⟨settled, heardSo⟩ := told
  obtain ⟨going, silentAtEnd⟩ := state_slotUse use
  obtain ⟨settledThen, toldThen⟩ := tones_slotUse use settled
  refine ⟨settledThen, ?_⟩
  have soundedBefore : run.sounds = (true && run.sound != 0) := by
    rw [sounds, bne_iff_ne.mpr going]
    rfl
  rw [toldThen, heard_append, heardSo, soundedBefore,
    Timers.heard_edge true run.sound later.sound (fun _ _ => rfl)]
  by_cases halted : later.state = .halted
  · rw [sounds, halted, silentAtEnd halted]
    rfl
  · rw [sounds, bne_iff_ne.mpr halted]
    rfl

theorem Told.refresh {before : Bool} {run : Run} (told : Told before run) :
    Told before run.refresh := by
  obtain ⟨settled, heardSo⟩ := told
  obtain ⟨tone, toldThen⟩ := tones_refresh run
  have sound : run.refresh.sound = Timers.countDown run.sound := by
    rcases run with ⟨state, machine, report⟩
    cases state <;> rfl
  have state : (run.refresh.state != .halted) = (run.state != .halted) := by
    rcases run with ⟨state, machine, report⟩
    cases state <;> rfl
  have stays : run.sound = 0 → run.refresh.sound ≠ 0 → (run.state != .halted) = true := by
    intro silent starts
    rw [sound, silent] at starts
    exact absurd Timers.countDown_zero starts
  refine ⟨tone.trans settled, ?_⟩
  rw [toldThen, heard_append, heardSo, sounds, sounds, state]
  exact Timers.heard_edge _ _ _ stays

end Run

/-- A tick without a fault tells what a device needs to hear what sounds. A tick with a fault
tells nothing, and no edge is left in the machine. -/
theorem Pacer.tick_told (pacer : Pacer) (machine : Machine) (nanoseconds : Nat)
    (settled : machine.tone = none) :
    match pacer.tick machine nanoseconds with
    | ⟨later, last, .ok report⟩ =>
        Run.Told (pacer.isRunning && machine.timers.isSounding) ⟨later.state, last, report⟩
    | ⟨later, last, .error fault⟩ =>
        later.state = .halted ∧ last.tone = none ∧
          ∃ address word, fault = .unknownOpcode address word := by
  let before := pacer.isRunning && machine.timers.isSounding
  have failed : ∀ run later fault, Run.Told before run → Run.SlotUse run later (some fault) →
      later.state = .halted ∧ later.machine.tone = none ∧
        ∃ address word, fault = .unknownOpcode address word := by
    intro run later fault told use
    cases use with
    | failed stepped fault runs step =>
        obtain ⟨same, cause⟩ := Machine.step_error step
        exact ⟨rfl, (congrArg Machine.tone same).trans told.1, _, _, cause⟩
  have kept := tick_keeps (fun _ _ told use => Run.Told.slotUse told use) failed
    (fun _ told => Run.Told.refresh told) pacer machine nanoseconds ⟨settled, rfl⟩
  cases ticked : pacer.tick machine nanoseconds with
  | mk later last result =>
      rw [ticked] at kept
      cases result with
      | ok report => exact kept
      | error fault =>
          obtain ⟨_, halted, quiet, cause⟩ := kept
          exact ⟨halted, quiet, cause⟩

/-! ### Sessions -/

def DeviceCall.tone? : DeviceCall → Option Tone
  | .tone edge => some edge
  | _ => none

def tonesOf (calls : List DeviceCall) : List Tone :=
  calls.filterMap DeviceCall.tone?

theorem tonesOf_append (earlier later : List DeviceCall) :
    tonesOf (earlier ++ later) = tonesOf earlier ++ tonesOf later :=
  List.filterMap_append

@[simp] theorem tonesOf_toneCalls (report : Report) :
    tonesOf (Session.toneCalls report) = report.tones.toList := by
  unfold tonesOf Session.toneCalls
  rw [List.filterMap_map]
  exact List.filterMap_some

@[simp] theorem tonesOf_showFrame (devices : Devices) (report : Report) :
    tonesOf (Session.showFrame devices report).1 = [] := by
  unfold Session.showFrame
  cases report.frame with
  | none => rfl
  | some frame =>
      cases answer : devices.draw frame <;> simp [answer, tonesOf, DeviceCall.tone?]

namespace Session

def sounds (session : Session) : Bool :=
  session.engine.any fun engine =>
    engine.pacer.isRunning && engine.machine.timers.isSounding

def Settled (session : Session) : Prop :=
  ∀ engine ∈ session.engine, engine.machine.tone = none

/-- A tick that finds the session sounding, fails on an unknown word, and leaves a sound timer of
zero: the fault took the report of the stop with it. -/
def LosesStop (session : Session) : Request → Prop
  | .tick devices elapsed =>
      session.sounds = true ∧
      (∃ address word,
        (session.tick devices elapsed).result = .error (.unknownOpcode address word)) ∧
      ∀ engine ∈ (session.tick devices elapsed).session.engine, engine.machine.timers.sound = 0
  | _ => False

theorem tonesOf_silence (machine : Machine) :
    tonesOf (silence machine) = if machine.timers.isSounding then [.stop] else [] := by
  unfold silence
  split <;> rfl

theorem heard_silence (runs : Bool) (machine : Machine) :
    heard (runs && machine.timers.isSounding) (tonesOf (silence machine)) = false := by
  rw [tonesOf_silence]
  by_cases sounding : machine.timers.isSounding = true
  · rw [if_pos sounding]
    rfl
  · rw [if_neg sounding, eq_false_of_ne_true sounding, Bool.and_false]
    rfl

theorem sounds_stop (session : Session) : session.stop.1.sounds = false := by
  unfold stop
  cases loaded : session.engine with
  | none =>
      unfold sounds
      simp only [loaded, Option.any_none]
  | some engine => rfl

theorem heard_stop (session : Session) :
    heard session.sounds (tonesOf session.stop.2) = false := by
  unfold stop sounds
  cases session.engine with
  | none => rfl
  | some engine => exact heard_silence engine.pacer.isRunning engine.machine

theorem Settled.stop {session : Session} (settled : session.Settled) : session.stop.1.Settled := by
  intro engine loaded
  unfold Session.stop at loaded
  cases present : session.engine with
  | none => simp [present] at loaded
  | some before =>
      simp only [present, Option.mem_def, Option.some.injEq] at loaded
      subst loaded
      exact settled before present

theorem heard_unload (session : Session) :
    heard session.sounds (tonesOf session.unload.2) = false := by
  unfold unload sounds
  cases session.engine with
  | none => rfl
  | some engine => exact heard_silence engine.pacer.isRunning engine.machine

theorem boot_silent {session : Session} {program : Program} {engine : Engine} {length : Nat}
    (booted : session.boot program = .ok (engine, length)) :
    engine.machine.timers = Timers.idle ∧ engine.machine.tone = none :=
  ⟨sameBut_of_booted booted .timers (by decide), sameBut_of_booted booted .tone (by decide)⟩

structure Agrees (before after : Session) (calls : List DeviceCall) : Prop where
  settled : after.Settled
  heardSo : heard before.sounds (tonesOf calls) = after.sounds

/-- How a tick answers: without a fault what is heard is what sounds, and after one the machine
has ended and only its sound timer decides whether a stop is sent. -/
inductive Tells (before : Session) (reply : Reply Control) : Prop where
  | faultless (sound : ∀ address word, reply.result ≠ .error (.unknownOpcode address word))
      (agrees : Agrees before reply.session reply.calls)
  | failed (engine : Engine)
      (fault : ∃ address word, reply.result = .error (.unknownOpcode address word))
      (loaded : reply.session.engine = some engine) (halted : engine.pacer.state = .halted)
      (settled : engine.machine.tone = none)
      (silenced : tonesOf reply.calls = tonesOf (silence engine.machine))

theorem runEngine_tells (session : Session) {engine : Engine}
    (loaded : session.engine = some engine) (settled : engine.machine.tone = none)
    (devices : Devices) (elapsed : Nat) :
    Tells session (session.runEngine devices engine elapsed) := by
  have told := engine.pacer.tick_told engine.machine elapsed settled
  unfold runEngine
  cases ticked : engine.pacer.tick engine.machine elapsed with
  | mk later last result =>
      rw [ticked] at told
      cases result with
      | error fault =>
          obtain ⟨halted, quiet, address, word, rfl⟩ := told
          exact .failed _ ⟨address, word, rfl⟩ rfl rfl quiet rfl
      | ok report =>
          have shown : ∀ address word,
              (showFrame devices report).2 ≠ .error (.unknownOpcode address word) := by
            intro address word
            unfold showFrame
            cases report.frame with
            | none => simp
            | some frame => cases answer : devices.draw frame <;> simp [answer]
          refine .faultless shown ⟨?_, ?_⟩
          · intro engine present
            cases present
            exact told.1
          · change heard session.sounds (tonesOf (toneCalls report ++ _)) = _
            rw [tonesOf_append, tonesOf_showFrame, List.append_nil, tonesOf_toneCalls, sounds,
              loaded]
            exact told.2

theorem tick_tells {session : Session} (settled : session.Settled) (devices : Devices)
    (elapsed : Nat) : Tells session (session.tick devices elapsed) := by
  unfold tick
  cases loaded : session.engine with
  | none =>
      exact .faultless (fun _ _ => by simp) ⟨settled, rfl⟩
  | some engine =>
      have quiet := settled engine loaded
      rcases polled : devices.poll engine.machine.keypad with ⟨keypad, failure | answer⟩
      · simp only [polled]
        refine .faultless (fun _ _ => by simp) ⟨?_, ?_⟩
        · intro other present
          cases present
          exact quiet
        · rw [sounds, loaded]
          rfl
      · let asked : Engine :=
          { engine with machine := { engine.machine with keypad := keypad } }
        have sameSounds : session.sounds = { session with engine := some asked }.sounds := by
          rw [sounds, loaded]
          rfl
        cases answer with
        | quit =>
            simp only [polled]
            refine .faultless (fun _ _ => by simp) ⟨?_, ?_⟩
            · have settledAsked : Settled { session with engine := some asked } := by
                intro other present
                cases present
                exact quiet
              exact settledAsked.stop
            · change heard session.sounds (tonesOf (Session.stop _).2) = _
              rw [sameSounds, heard_stop, sounds_stop]
        | proceed =>
            simp only [polled]
            have tells :=
              runEngine_tells { session with engine := some asked } rfl quiet devices elapsed
            cases tells with
            | faultless sound agrees =>
                refine .faultless sound ⟨agrees.settled, ?_⟩
                rw [sameSounds]
                exact agrees.heardSo
            | failed engine fault loaded halted settled silenced =>
                exact .failed engine fault loaded halted settled silenced

/-! ### Requests -/

private theorem agrees_of_new {before after : Session}
    (new : ∀ engine ∈ after.engine,
      engine.machine.timers = Timers.idle ∧ engine.machine.tone = none) :
    Agrees before after before.unload.2 := by
  refine ⟨fun engine loaded => (new engine loaded).2, ?_⟩
  rw [heard_unload, sounds]
  cases loaded : after.engine with
  | none => rfl
  | some engine =>
      rw [Option.any_some, (new engine loaded).1]
      exact (Bool.and_false _).symm

theorem agrees_load (session : Session) (source : ProgramSource) (profile : Profile) :
    Agrees session (session.load source profile).session (session.load source profile).calls := by
  rw [load_eq]
  cases built : session.build source profile with
  | error fault =>
      refine agrees_of_new fun engine loaded => ?_
      cases loaded
  | ok new =>
      refine agrees_of_new fun engine loaded => ?_
      cases loaded
      exact boot_silent (boot_of_build built)

theorem agrees_reset {session : Session} (settled : session.Settled) :
    Agrees session session.reset.session session.reset.calls := by
  cases remembered : session.program with
  | none =>
      rw [reset_of_forgotten remembered]
      exact ⟨settled, rfl⟩
  | some program =>
      rw [reset_of_remembered remembered]
      cases booted : session.emptied.boot program with
      | error fault =>
          refine agrees_of_new fun engine loaded => ?_
          cases loaded
      | ok new =>
          refine agrees_of_new fun engine loaded => ?_
          cases loaded
          exact boot_silent booted

theorem agrees_stop {session : Session} (settled : session.Settled) :
    Agrees session session.stop.1 session.stop.2 :=
  ⟨settled.stop, (heard_stop session).trans (sounds_stop session).symm⟩

theorem Settled.handle {session : Session} (settled : session.Settled) (request : Request) :
    (session.handle request).1.Settled := by
  cases request with
  | load source profile => exact (agrees_load session source profile).settled
  | reset => exact (agrees_reset settled).settled
  | stop => exact settled.stop
  | tick devices elapsed =>
      cases tick_tells settled devices elapsed with
      | faultless sound agrees => exact agrees.settled
      | failed engine fault loaded halted quiet silenced =>
          intro other present
          change other ∈ (session.tick devices elapsed).session.engine at present
          rw [loaded] at present
          cases present
          exact quiet

theorem heard_handle {session : Session} (settled : session.Settled) {request : Request}
    (kept : ¬ session.LosesStop request) :
    heard session.sounds (tonesOf (session.handle request).2) =
      (session.handle request).1.sounds := by
  cases request with
  | load source profile => exact (agrees_load session source profile).heardSo
  | reset => exact (agrees_reset settled).heardSo
  | stop => exact (agrees_stop settled).heardSo
  | tick devices elapsed =>
      cases tick_tells settled devices elapsed with
      | faultless sound agrees => exact agrees.heardSo
      | failed engine fault loaded halted quiet silenced =>
          change heard session.sounds (tonesOf (session.tick devices elapsed).calls) =
            (session.tick devices elapsed).session.sounds
          have silentNow : (session.tick devices elapsed).session.sounds = false := by
            rw [sounds, loaded, Option.any_some, Pacer.isRunning, halted]
            rfl
          rw [silenced, silentNow, tonesOf_silence]
          by_cases sounding : engine.machine.timers.isSounding = true
          · rw [if_pos sounding]
            rfl
          · rw [if_neg sounding, heard_nil]
            refine eq_false_of_ne_true fun sounded => kept ⟨sounded, fault, ?_⟩
            intro other present
            rw [loaded] at present
            cases present
            exact Decidable.of_not_not (mt bne_iff_ne.mpr sounding)

theorem losesStop_silent {session : Session} (settled : session.Settled) {request : Request}
    (lost : session.LosesStop request) :
    session.sounds = true ∧ tonesOf (session.handle request).2 = [] ∧
      (session.handle request).1.sounds = false := by
  cases request with
  | load source profile => exact lost.elim
  | reset => exact lost.elim
  | stop => exact lost.elim
  | tick devices elapsed =>
      obtain ⟨sounded, ⟨address, word, fault⟩, quiet⟩ := lost
      cases tick_tells settled devices elapsed with
      | faultless sound agrees => exact absurd fault (sound address word)
      | failed engine fault loaded halted _ silenced =>
          have silent := quiet engine loaded
          refine ⟨sounded, silenced.trans ?_, ?_⟩
          · rw [tonesOf_silence, Timers.isSounding, silent]
            rfl
          · change (session.tick devices elapsed).session.sounds = false
            rw [sounds, loaded, Option.any_some, Timers.isSounding, silent]
            exact Bool.and_false _

/-! ### Histories -/

/-- A request in a history lost a stop, and no tone was told since. -/
def StopLost (session : Session) (requests : List Request) : Prop :=
  ∃ earlier request later, requests = earlier ++ request :: later ∧
    (session.after earlier).LosesStop request ∧
    tonesOf ((session.after (earlier ++ [request])).calls later) = []

theorem stopLost_nil (session : Session) : ¬ session.StopLost [] := by
  intro lost
  obtain ⟨earlier, request, later, split, _⟩ := lost
  simp at split

theorem stopLost_snoc (session : Session) (requests : List Request) (request : Request) :
    session.StopLost (requests ++ [request]) ↔
      (session.after requests).LosesStop request ∨
        session.StopLost requests ∧ tonesOf ((session.after requests).handle request).2 = [] := by
  constructor
  · rintro ⟨earlier, loser, later, split, loses, silent⟩
    rcases List.eq_nil_or_concat later with none | ⟨between, last, rfl⟩
    · subst none
      obtain ⟨rfl, rfl⟩ := List.append_singleton_inj.mp split
      exact Or.inl loses
    · rw [List.concat_eq_append, ← List.cons_append, ← List.append_assoc] at split
      obtain ⟨rfl, rfl⟩ := List.append_singleton_inj.mp split
      rw [List.concat_eq_append, calls_snoc, tonesOf_append, List.append_eq_nil_iff,
        ← after_append, List.append_assoc] at silent
      exact Or.inr ⟨⟨earlier, loser, between, rfl, loses, silent.1⟩, silent.2⟩
  · rintro (loses | ⟨⟨earlier, loser, later, rfl, loses, silent⟩, quiet⟩)
    · exact ⟨requests, request, [], rfl, loses, rfl⟩
    · refine ⟨earlier, loser, later ++ [request], ?_, loses, ?_⟩
      · rw [List.append_assoc, List.cons_append]
      · rw [calls_snoc, tonesOf_append, silent, List.nil_append, ← after_append, List.append_assoc]
        exact quiet

/-- What is heard behind a history is what sounds, unless a stop is lost; then a tone is heard
and nothing sounds. -/
theorem heard_history {session : Session} (settled : session.Settled)
    (silent : session.sounds = false) (requests : List Request) :
    (¬ session.StopLost requests ∧
        heard false (tonesOf (session.calls requests)) = (session.after requests).sounds) ∨
      (session.StopLost requests ∧ heard false (tonesOf (session.calls requests)) = true ∧
        (session.after requests).sounds = false) := by
  induction requests using List.reverseRecOn with
  | nil => exact Or.inl ⟨session.stopLost_nil, silent.symm⟩
  | append_singleton requests request ih =>
      have keeps : ∀ session request, Settled session → (session.handle request).1.Settled :=
        fun _ request before => before.handle request
      have settledThere := after_keeps keeps requests session settled
      rw [stopLost_snoc, calls_snoc, after_snoc, tonesOf_append, heard_append]
      by_cases loses : (session.after requests).LosesStop request
      · obtain ⟨sounded, quiet, silentThen⟩ := losesStop_silent settledThere loses
        rw [quiet, silentThen]
        refine Or.inr ⟨Or.inl loses, ?_, rfl⟩
        rcases ih with ⟨_, heardSo⟩ | ⟨_, heardSo, _⟩
        · exact heardSo.trans sounded
        · exact heardSo
      · -- a stop lost earlier is made good by the first tone told after it
        have heardNow := heard_handle settledThere loses
        rcases ih with ⟨kept, heardSo⟩ | ⟨lost, heardSo, silentThen⟩
        · refine Or.inl ⟨?_, ?_⟩
          · rintro (loses' | ⟨lost, _⟩)
            · exact loses loses'
            · exact kept lost
          · rw [heardSo, heardNow]
        · rw [silentThen] at heardNow
          by_cases quiet : tonesOf ((session.after requests).handle request).2 = []
          · rw [quiet, heard_nil] at heardNow ⊢
            exact Or.inr ⟨Or.inr ⟨lost, rfl⟩, heardSo, heardNow.symm⟩
          · refine Or.inl ⟨?_, ?_⟩
            · rintro (loses' | ⟨_, quiet'⟩)
              · exact loses loses'
              · exact quiet quiet'
            · rw [heard_of_ne_nil quiet _ false, heardNow]

/-- The last tone that the devices of a session were told is a start exactly when a machine is
loaded that has not ended and whose sound timer is not zero, except while a stop is lost. -/
theorem getLast?_tonesOf_calls_iff (filter : Filter) (tape : Tape) (requests : List Request) :
    ((tonesOf ((start filter tape).calls requests)).getLast? = some .start ↔
        ((start filter tape).after requests).sounds = true) ↔
      ¬ (start filter tape).StopLost requests := by
  have settled : (start filter tape).Settled := by
    intro engine loaded
    cases loaded
  rw [← heard_eq_true_iff]
  rcases heard_history settled rfl requests with ⟨kept, heardSo⟩ | ⟨lost, heardSo, silent⟩
  · rw [heardSo]
    exact iff_of_true Iff.rfl kept
  · rw [heardSo, silent]
    simp [lost]

def quietDevices : Devices where
  poll keypad := (keypad, .ok .proceed)
  draw _ := none

/-- A tone starts in the first tick. In the second one it stops, and then an unknown word comes
up. -/
def toneThenFault : List Request :=
  [.load ⟨[0x60, 0x05, 0xF0, 0x18, 0x61, 0x00, 0xF1, 0x18, 0xFF, 0xFF], none⟩
      ((Profile.ofPlatform "tone" .modern).withRate 180),
    .tick quietDevices refreshInterval, .tick quietDevices refreshInterval]

theorem toneThenFault_disagrees :
    ¬ ((tonesOf ((start .none ⟨fun _ => 0, 0⟩).calls toneThenFault)).getLast? = some .start ↔
        ((start .none ⟨fun _ => 0, 0⟩).after toneThenFault).sounds = true) := by
  decide +kernel

end Session
end Chip8
