import Chip8.Proofs.Cadence
import Chip8.Proofs.Reloading

set_option autoImplicit false

/-!
The end of a machine. It comes in four ways: the program ends itself, it runs into a word that is
no instruction, it is stopped, or the input wants to quit (`Halts`). Then a tick asks the input and
may repeat the stop of a tone, and that is all it does (`tick_of_halted`).

Main statement: `halted_for_good`.
-/

namespace Chip8

/-- A slot at which the program ends itself. -/
def Moment.isExit : Moment → Bool
  | .slot run => run.state = .running ∧ run.machine.instruction? = some .exit
  | _ => false

theorem Moment.halted_of_isExit {moment : Moment} (exits : moment.isExit = true) :
    moment.after.state = .halted := by
  cases moment with
  | slot run =>
      obtain ⟨runs, next⟩ := of_decide_eq_true exits
      rcases run with ⟨state, machine, report⟩
      cases runs
      have step : machine.step = (machine.advance, .ok .exit) := Machine.step_of_instruction next
      rw [after, Run.slot?]
      simp only [Run.execute, step]
      rfl
  | refresh run => cases exits
  | press key run => cases exits
  | release key run => cases exits

/-- Behind a moment that halts the machine no instruction is carried out, also not in the same
stretch of time. -/
theorem Unfolds.no_step_after_halt {run last : Run} {earlier later : List Moment} {moment : Moment}
    (unfolds : Unfolds run (earlier ++ moment :: later) last)
    (halts : moment.after.state = .halted) :
    last.state = .halted ∧ ∀ other ∈ later, other.isStep = false := by
  obtain ⟨halted, lastHalted⟩ := unfolds.cut.2.keeps (fun run => run.state = .halted)
    (fun _ _ => Moment.halted_after) halts
  refine ⟨lastHalted, ?_⟩
  intro other member
  have state := halted other member
  cases other with
  | slot run =>
      have idle : run.state ≠ .running := by
        rw [show run.state = .halted from state]
        nofun
      exact decide_eq_false idle
  | refresh run => rfl
  | press key run => rfl
  | release key run => rfl

/-- An engine whose keypad the input has changed. -/
def Engine.keyed (engine : Engine) (keypad : Keypad) : Engine :=
  { engine with machine := { engine.machine with keypad := keypad } }

namespace Request

/-- Anything but a load and a reset. -/
def keepsProgram : Request → Bool
  | .load _ _ => false
  | .reset => false
  | .stop => true
  | .tick _ _ => true

/-- The keypad behind a request that keeps the program: only the poll of a tick changes it. -/
def keypadAfter (keypad : Keypad) : Request → Keypad
  | .tick devices _ => (devices.poll keypad).1
  | _ => keypad

end Request

namespace Session

variable {session : Session} {engine : Engine}

/-- What comes up while a request lets time go by. A tick does so if its poll wants to go on. -/
def momentsOf (session : Session) : Request → List Moment
  | .tick devices elapsed =>
      match session.engine with
      | none => []
      | some engine =>
          match devices.poll engine.machine.keypad with
          | (keypad, .ok .proceed) => engine.pacer.moments (engine.keyed keypad).machine elapsed
          | _ => []
  | _ => []

def Halted (session : Session) : Prop :=
  ∃ engine, session.engine = some engine ∧ engine.pacer.state = .halted

/-- The ways to a halt: a stop of a loaded machine, and a tick that is told to quit, comes to a
word that is no instruction, or comes to the end of the program. -/
def Halts (session : Session) : Request → Prop
  | .stop => session.isLoaded = true
  | .tick devices elapsed =>
      (session.tick devices elapsed).result = .ok .quit ∨
      (∃ address word,
        (session.tick devices elapsed).result = .error (.unknownOpcode address word)) ∨
      (session.momentsOf (.tick devices elapsed)).any Moment.isExit = true
  | _ => False

/-! ### The ways of a tick -/

theorem tick_of_failure (loaded : session.engine = some engine) {devices : Devices}
    {keypad : Keypad} {failure : String}
    (polled : devices.poll engine.machine.keypad = (keypad, .error failure)) (elapsed : Nat) :
    session.tick devices elapsed =
      ⟨{ session with engine := some (engine.keyed keypad) }, [.poll keypad],
        .error (.device failure)⟩ := by
  unfold tick
  simp only [loaded, polled]
  rfl

theorem tick_of_quit (loaded : session.engine = some engine) {devices : Devices}
    {keypad : Keypad} (polled : devices.poll engine.machine.keypad = (keypad, .ok .quit))
    (elapsed : Nat) :
    session.tick devices elapsed =
      ⟨{ session with engine := some { engine.keyed keypad with pacer := engine.pacer.stop } },
        .poll keypad :: silence engine.machine, .ok .quit⟩ := by
  unfold tick
  simp only [loaded, polled]
  rfl

theorem tick_of_proceed (loaded : session.engine = some engine) {devices : Devices}
    {keypad : Keypad} (polled : devices.poll engine.machine.keypad = (keypad, .ok .proceed))
    (elapsed : Nat) :
    session.tick devices elapsed =
      let ran := runEngine { session with engine := some (engine.keyed keypad) } devices
        (engine.keyed keypad) elapsed
      { ran with calls := .poll keypad :: ran.calls } := by
  unfold tick
  simp only [loaded, polled]
  rfl

theorem momentsOf_of_failure (loaded : session.engine = some engine) {devices : Devices}
    {keypad : Keypad} {failure : String}
    (polled : devices.poll engine.machine.keypad = (keypad, .error failure)) (elapsed : Nat) :
    session.momentsOf (.tick devices elapsed) = [] := by
  unfold momentsOf
  simp only [loaded, polled]

theorem momentsOf_of_proceed (loaded : session.engine = some engine) {devices : Devices}
    {keypad : Keypad} (polled : devices.poll engine.machine.keypad = (keypad, .ok .proceed))
    (elapsed : Nat) :
    session.momentsOf (.tick devices elapsed) =
      engine.pacer.moments (engine.keyed keypad).machine elapsed := by
  unfold momentsOf
  simp only [loaded, polled]

theorem unfolds_momentsOf (session : Session) (request : Request) :
    session.momentsOf request = [] ∨
      ∃ run last, Unfolds run (session.momentsOf request) last := by
  cases request with
  | load source profile => exact .inl rfl
  | reset => exact .inl rfl
  | stop => exact .inl rfl
  | tick devices elapsed =>
      cases loaded : session.engine with
      | none =>
          left
          unfold momentsOf
          simp only [loaded]
      | some engine =>
          rcases polled : devices.poll engine.machine.keypad with ⟨keypad, failure | answer⟩
          · exact .inl (momentsOf_of_failure loaded polled elapsed)
          · cases answer with
            | quit =>
                left
                unfold momentsOf
                simp only [loaded, polled]
            | proceed =>
                rw [momentsOf_of_proceed loaded polled]
                exact .inr ⟨_, _, engine.pacer.unfolds_moments _ elapsed⟩

/-- A tick that goes on leaves the engine in the state to which its pacer has come. -/
theorem state_runEngine (session : Session) (devices : Devices) (engine : Engine)
    (elapsed : Nat) :
    ∃ later, (session.runEngine devices engine elapsed).session.engine = some later ∧
      later.pacer.state = (engine.pacer.tick engine.machine elapsed).pacer.state := by
  unfold runEngine
  cases ticked : engine.pacer.tick engine.machine elapsed with
  | mk pacer machine result =>
      cases result with
      | ok report => exact ⟨_, rfl, rfl⟩
      | error fault =>
          have failed : (engine.pacer.tick engine.machine elapsed).result = .error fault := by
            rw [ticked]
          have halted := Pacer.halted_of_tick_fault failed
          rw [ticked] at halted
          exact ⟨_, rfl, halted.symm⟩

theorem showFrame_answer (devices : Devices) (report : Report) :
    (showFrame devices report).2 = .ok .proceed ∨
      ∃ failure, (showFrame devices report).2 = .error (.device failure) := by
  unfold showFrame
  cases report.frame with
  | none => exact .inl rfl
  | some frame =>
      cases answer : devices.draw frame with
      | none => exact .inl (by simp only [answer])
      | some failure => exact .inr ⟨failure, by simp only [answer]⟩

/-- A tick that goes on wants to go on further, or a device has failed, or it has met a fault and
is halted. -/
theorem runEngine_answer (session : Session) (devices : Devices) (engine : Engine)
    (elapsed : Nat) :
    (session.runEngine devices engine elapsed).result = .ok .proceed ∨
      (∃ failure, (session.runEngine devices engine elapsed).result = .error (.device failure)) ∨
      (engine.pacer.tick engine.machine elapsed).pacer.state = .halted := by
  cases ticked : (engine.pacer.tick engine.machine elapsed).result with
  | error fault => exact .inr (.inr (Pacer.halted_of_tick_fault ticked))
  | ok report =>
      have answer : (session.runEngine devices engine elapsed).result =
          (showFrame devices report).2 := by
        unfold runEngine
        simp only [ticked]
      rw [answer, ← or_assoc]
      exact .inl (showFrame_answer devices report)

/-! ### Coming to a halt -/

theorem halted_of_proceed (loaded : session.engine = some engine) {devices : Devices}
    {keypad : Keypad} (polled : devices.poll engine.machine.keypad = (keypad, .ok .proceed))
    {elapsed : Nat} (halts : session.Halts (.tick devices elapsed)) :
    (engine.pacer.tick (engine.keyed keypad).machine elapsed).pacer.state = .halted := by
  rw [Halts, momentsOf_of_proceed loaded polled, tick_of_proceed loaded polled] at halts
  rcases halts with quit | ⟨address, word, unknown⟩ | exits
  · rcases runEngine_answer _ devices (engine.keyed keypad) elapsed with
      proceeds | ⟨failure, failed⟩ | halted
    · rw [proceeds] at quit
      cases quit
    · rw [failed] at quit
      cases quit
    · exact halted
  · rcases runEngine_answer _ devices (engine.keyed keypad) elapsed with
      proceeds | ⟨failure, failed⟩ | halted
    · rw [proceeds] at unknown
      cases unknown
    · rw [failed] at unknown
      cases unknown
    · exact halted
  · obtain ⟨exit, member, isExit⟩ := List.any_eq_true.mp exits
    obtain ⟨earlier, later, split⟩ := List.append_of_mem member
    have unfolds := engine.pacer.unfolds_moments (engine.keyed keypad).machine elapsed
    rw [split] at unfolds
    exact (unfolds.no_step_after_halt (Moment.halted_of_isExit isExit)).1

theorem halted_of_halts {request : Request} (halts : session.Halts request) :
    (session.handle request).1.Halted := by
  cases request with
  | load source profile => exact halts.elim
  | reset => exact halts.elim
  | stop =>
      obtain ⟨engine, loaded⟩ := Option.isSome_iff_exists.mp halts
      refine ⟨{ engine with pacer := engine.pacer.stop }, ?_, rfl⟩
      rw [handle, stop, loaded]
  | tick devices elapsed =>
      cases loaded : session.engine with
      | none =>
          have untouched : session.tick devices elapsed = ⟨session, [], .error .notLoaded⟩ :=
            tick_of_unloaded loaded devices elapsed
          have idle : session.momentsOf (.tick devices elapsed) = [] := by
            unfold momentsOf
            simp only [loaded]
          rw [Halts, untouched, idle] at halts
          rcases halts with quit | ⟨address, word, unknown⟩ | exits
          · cases quit
          · cases unknown
          · cases exits
      | some engine =>
          rw [handle]
          rcases polled : devices.poll engine.machine.keypad with ⟨keypad, failure | answer⟩
          · rw [Halts, tick_of_failure loaded polled, momentsOf_of_failure loaded polled] at halts
            rcases halts with quit | ⟨address, word, unknown⟩ | exits
            · cases quit
            · cases unknown
            · cases exits
          · cases answer with
            | quit =>
                rw [tick_of_quit loaded polled]
                exact ⟨_, rfl, rfl⟩
            | proceed =>
                have halted := halted_of_proceed loaded polled halts
                rw [tick_of_proceed loaded polled]
                obtain ⟨later, present, state⟩ := state_runEngine
                  { session with engine := some (engine.keyed keypad) } devices
                  (engine.keyed keypad) elapsed
                exact ⟨later, present, state.trans halted⟩

/-! ### Behind a halt -/

/-- What a halted session may still send to its devices: it asks the input and repeats the stop
of a tone. -/
def Calm (call : DeviceCall) : Prop :=
  (∃ keypad, call = .poll keypad) ∨ call = .tone .stop

theorem calm_silence (machine : Machine) : ∀ call ∈ silence machine, Calm call := by
  intro call member
  unfold silence at member
  split at member
  · exact .inr (List.mem_singleton.mp member)
  · cases member

theorem stop_of_stopped {pacer : Pacer} (halted : pacer.state = .halted) : pacer.stop = pacer := by
  rcases pacer with ⟨rate, state, clock, sinceRefresh, granted⟩
  cases halted
  rfl

theorem runEngine_of_halted (session : Session) (devices : Devices)
    (halted : engine.pacer.state = .halted) (elapsed : Nat) :
    session.runEngine devices engine elapsed =
      ⟨{ session with engine := some engine }, [], .ok .proceed⟩ := by
  have uncounted : engine.underflows + Report.none.underflows = engine.underflows :=
    Counter.add_zero _
  unfold runEngine
  rw [Pacer.tick_of_halted halted]
  dsimp only
  rw [uncounted]
  rfl

/-- The calls of a halted tick behind its poll: a quit repeats the stop of a tone. -/
def callsOf (machine : Machine) : Except String Control → List DeviceCall
  | .ok .quit => silence machine
  | _ => []

/-- A tick of a halted session polls the keypad and answers what the input answers. -/
theorem tick_of_halted (loaded : session.engine = some engine)
    (halted : engine.pacer.state = .halted) (devices : Devices) (elapsed : Nat) :
    session.tick devices elapsed =
      let polled := devices.poll engine.machine.keypad
      ⟨{ session with engine := some (engine.keyed polled.1) },
        .poll polled.1 :: callsOf engine.machine polled.2, polled.2.mapError .device⟩ := by
  rcases polled : devices.poll engine.machine.keypad with ⟨keypad, failure | answer⟩
  · exact tick_of_failure loaded polled elapsed
  · cases answer with
    | quit =>
        rw [tick_of_quit loaded polled, stop_of_stopped halted]
        rfl
    | proceed =>
        have still : (engine.keyed keypad).pacer.state = .halted := halted
        rw [tick_of_proceed loaded polled, runEngine_of_halted _ devices still]
        rfl

theorem momentsOf_of_halted (loaded : session.engine = some engine)
    (halted : engine.pacer.state = .halted) (request : Request) :
    session.momentsOf request = [] := by
  cases request with
  | load source profile => rfl
  | reset => rfl
  | stop => rfl
  | tick devices elapsed =>
      unfold momentsOf
      simp only [loaded]
      split
      · exact Pacer.moments_of_halted halted _ elapsed
      · rfl

theorem known_of_halted (loaded : session.engine = some engine)
    (halted : engine.pacer.state = .halted) (devices : Devices) (elapsed : Nat) (address : Nat)
    (word : UInt16) :
    (session.tick devices elapsed).result ≠ .error (.unknownOpcode address word) := by
  have answered : ∀ answer : Except String Control,
      answer.mapError Fault.device ≠ .error (.unknownOpcode address word) := by
    rintro (failure | wish) unknown
    · cases unknown
    · cases unknown
  rw [tick_of_halted loaded halted]
  exact answered _

theorem calm_callsOf (machine : Machine) (answer : Except String Control) :
    ∀ call ∈ callsOf machine answer, Calm call := by
  rcases answer with failure | answer
  · exact fun _ member => nomatch member
  · cases answer with
    | quit => exact calm_silence machine
    | proceed => exact fun _ member => nomatch member

/-- One request to a halted session that keeps the program moves nothing but the keypad. -/
theorem handle_of_halted (loaded : session.engine = some engine)
    (halted : engine.pacer.state = .halted) {request : Request}
    (keeps : request.keepsProgram = true) :
    (session.handle request).1 =
        { session with
          engine := some (engine.keyed (request.keypadAfter engine.machine.keypad)) } ∧
      ∀ call ∈ (session.handle request).2, Calm call := by
  cases request with
  | load source profile => cases keeps
  | reset => cases keeps
  | stop =>
      rw [handle, stop, loaded]
      dsimp only
      rw [stop_of_stopped halted]
      exact ⟨rfl, calm_silence engine.machine⟩
  | tick devices elapsed =>
      rw [handle, tick_of_halted loaded halted]
      refine ⟨rfl, ?_⟩
      intro call member
      rcases List.mem_cons.mp member with rfl | silencing
      · exact .inl ⟨_, rfl⟩
      · exact calm_callsOf _ _ call silencing

theorem after_of_halted {requests : List Request} (loaded : session.engine = some engine)
    (halted : engine.pacer.state = .halted)
    (keep : ∀ request ∈ requests, request.keepsProgram = true) :
    (session.after requests).engine =
        some (engine.keyed (requests.foldl Request.keypadAfter engine.machine.keypad)) ∧
      ∀ call ∈ session.calls requests, Calm call := by
  induction requests generalizing session engine with
  | nil => exact ⟨loaded, fun _ member => nomatch member⟩
  | cons request later ih =>
      obtain ⟨keeps, keepLater⟩ := List.forall_mem_cons.mp keep
      obtain ⟨same, calm⟩ := handle_of_halted loaded halted keeps
      -- the engine differs in its keypad alone, so it is halted still
      obtain ⟨sameThen, calmThen⟩ := ih (congrArg Session.engine same) halted keepLater
      refine ⟨sameThen, ?_⟩
      intro call member
      rcases List.mem_append.mp member with now | behind
      · exact calm call now
      · exact calmThen call behind

/-- A session whose engine is halted, behind requests none of which loads or resets. -/
structure StaysHalted (session : Session) (engine : Engine) (requests : List Request) : Prop where
  /-- The pacer, the count of underflows and the machine are as they were, but for the keypad,
  which has gone through the polls. -/
  kept : (session.after requests).engine =
    some (engine.keyed (requests.foldl Request.keypadAfter engine.machine.keypad))
  calm : ∀ call ∈ session.calls requests, Calm call
  /-- Nothing comes up in a further tick, no slot and no refresh. -/
  idle : ∀ devices elapsed, (session.after requests).momentsOf (.tick devices elapsed) = []
  known : ∀ devices elapsed address word,
    ((session.after requests).tick devices elapsed).result ≠ .error (.unknownOpcode address word)

theorem stays_halted {requests : List Request} (loaded : session.engine = some engine)
    (halted : engine.pacer.state = .halted)
    (keep : ∀ request ∈ requests, request.keepsProgram = true) :
    session.StaysHalted engine requests := by
  obtain ⟨kept, calm⟩ := after_of_halted loaded halted keep
  refine ⟨kept, calm, ?_, ?_⟩
  · intro devices elapsed
    exact momentsOf_of_halted kept halted _
  · intro devices elapsed address word
    exact known_of_halted kept halted devices elapsed address word

/-- A halt is for good. No instruction comes behind it in the request that brings it, and the
machine it leaves stays as it is until a load or a reset. -/
theorem halted_for_good {session : Session} {request : Request} {later : List Request}
    (halts : session.Halts request)
    (keep : ∀ request ∈ later, request.keepsProgram = true) :
    (∀ earlier moment behind, session.momentsOf request = earlier ++ moment :: behind →
      moment.after.state = .halted → ∀ other ∈ behind, other.isStep = false) ∧
    ∃ engine, (session.handle request).1.engine = some engine ∧
      engine.pacer.state = .halted ∧ (session.handle request).1.StaysHalted engine later := by
  constructor
  · intro earlier moment behind split halt
    rcases session.unfolds_momentsOf request with none | ⟨run, last, unfolds⟩
    · rw [none] at split
      cases earlier <;> cases split
    · rw [split] at unfolds
      exact (unfolds.no_step_after_halt halt).2
  · obtain ⟨engine, loaded, halted⟩ := halted_of_halts halts
    exact ⟨engine, loaded, halted, stays_halted loaded halted keep⟩

/-- It starts a tone and ends itself while the tone sounds. -/
def soundingExit : ProgramSource :=
  ⟨[0x60, 0x05, 0xF0, 0x18, 0x00, 0xFD], none⟩

/-- An input that leaves a keypad behind and always answers the same, and a screen that fails. -/
def answering (keypad : Keypad) (answer : Except String Control) : Devices :=
  ⟨fun _ => (keypad, answer), fun _ => some "no screen"⟩

def soundingExitLoaded : Session :=
  ((start .none ⟨fun _ => 0, 0⟩).load soundingExit
    ((Profile.ofPlatform "sounding exit" .superChip).withRate 180)).session

/-- Three slots, the last of which is the end of the program, and a refresh in the same stretch. -/
def exitRequest : Request :=
  .tick (answering .idle (.ok .proceed)) refreshInterval

def afterExit : List Request :=
  [.tick (answering (Keypad.idle.press 5) (.ok .proceed)) 1000000000, .stop,
    .tick (answering .idle (.error "no keyboard")) 20000000,
    .tick (answering (Keypad.idle.press 7) (.ok .quit)) 0]

theorem halted_for_good_soundingExit :
    soundingExitLoaded.Halts exitRequest ∧
      (soundingExitLoaded.momentsOf exitRequest).map Moment.isStep = [true, true, true, false] ∧
      ∃ engine, (soundingExitLoaded.handle exitRequest).1.engine = some engine ∧
        engine.pacer.state = .halted ∧ engine.machine.pc = 0x206 ∧
        (soundingExitLoaded.handle exitRequest).1.StaysHalted engine afterExit := by
  have exits : (soundingExitLoaded.momentsOf exitRequest).any Moment.isExit = true := by
    decide +kernel
  have halts : soundingExitLoaded.Halts exitRequest := .inr (.inr exits)
  have keep : ∀ request ∈ afterExit, request.keepsProgram = true := by
    decide +kernel
  have place : ((soundingExitLoaded.handle exitRequest).1.engine.map fun engine =>
      engine.machine.pc) = some 0x206 := by
    decide +kernel
  obtain ⟨-, engine, loaded, halted, stays⟩ := halted_for_good halts keep
  rw [loaded] at place
  exact ⟨halts, by decide +kernel, engine, loaded, halted, Option.some_inj.mp place, stays⟩

end Session
end Chip8
