import Chip8.Proofs.History
import Chip8.Proofs.Stretches
import Chip8.Session.Loop

set_option autoImplicit false

/-!
What is left of one program when the next is loaded: nothing but the tape, which goes on behind the
bytes that were read. A session keeps two things that can be there or not, its machine and the last
good program. A request loads, loses or moves the machine and leaves the program alone, or it loads
both (`handling`). The program can always be started again, because its start hangs on nothing but
itself (`Bootable`).

Main statement: `nothing_leaks`.
-/

namespace Chip8

/-- Two profiles agree in all that bears on how a program runs. -/
structure Profile.RunsLike (left right : Profile) : Prop where
  platform : left.platform = right.platform
  dialect : left.dialect = right.dialect
  rate : left.rate = right.rate

/-- An engine with another tape in its machine. -/
def Engine.onTape (engine : Engine) (tape : Tape) : Engine :=
  { engine with machine := { engine.machine with tape := tape } }

/-! ### Tapes go on -/

/-- A later state of a tape: the bytes are the same, and those that were read are behind it. -/
structure Tape.GoesOn (earlier later : Tape) : Prop where
  byte : later.byte = earlier.byte
  position : earlier.position ≤ later.position

theorem Tape.GoesOn.refl (tape : Tape) : tape.GoesOn tape :=
  ⟨rfl, Nat.le_refl _⟩

theorem Tape.GoesOn.trans {first second third : Tape} (upTo : first.GoesOn second)
    (behind : second.GoesOn third) : first.GoesOn third :=
  ⟨behind.byte.trans upTo.byte, Nat.le_trans upTo.position behind.position⟩

/-- Only a random byte moves the tape, by one. -/
theorem Machine.goesOn_step (machine : Machine) : machine.tape.GoesOn machine.step.1.tape := by
  cases next : machine.instruction? with
  | none =>
      rw [step_of_no_instruction next]
      exact .refl _
  | some instruction =>
      cases instruction with
      | random x mask =>
          rw [step_of_instruction next]
          exact ⟨rfl, Nat.le_succ _⟩
      | _ =>
          have same : machine.step.1.tape = machine.tape :=
            step_sameBut next .tape (by simp [Instruction.changes])
          rw [same]
          exact .refl _

theorem Run.SlotUse.goesOn {run later : Run} {fault : Option Fault} (use : SlotUse run later fault) :
    run.machine.tape.GoesOn later.machine.tape := by
  cases use with
  | took x machine waits found =>
      rw [Machine.takeKey?] at found
      obtain ⟨key, _, taken⟩ := Option.map_eq_some_iff.mp found
      rw [← taken]
      exact .refl _
  | carried stepped outcome runs step =>
      have stepped := run.machine.goesOn_step
      rw [step] at stepped
      cases outcome <;> exact stepped
  | failed stepped fault runs step =>
      have stepped := run.machine.goesOn_step
      rw [step] at stepped
      exact stepped

theorem Pacer.goesOn_tick (pacer : Pacer) (machine : Machine) (nanoseconds : Nat) :
    machine.tape.GoesOn (pacer.tick machine nanoseconds).machine.tape := by
  have used : ∀ (run later : Run) (fault : Option Fault), machine.tape.GoesOn run.machine.tape →
      Run.SlotUse run later fault → machine.tape.GoesOn later.machine.tape :=
    fun _ _ _ before use => before.trans use.goesOn
  have refreshed : ∀ run : Run, machine.tape.GoesOn run.machine.tape →
      machine.tape.GoesOn run.refresh.machine.tape := by
    rintro ⟨state, found, report⟩ before
    cases state <;> exact before
  have kept := tick_keeps (fun run later => used run later none)
    (fun run later fault => used run later (some fault)) refreshed pacer machine nanoseconds
    (.refl _)
  rcases ticked : pacer.tick machine nanoseconds with ⟨later, last, fault | report⟩
  · rw [ticked] at kept
    exact kept.elim fun _ goesOn => goesOn
  · rw [ticked] at kept
    exact kept

theorem Machine.load_onTape (machine : Machine) (tape : Tape) (source : ProgramSource) :
    { machine with tape := tape }.load source =
      ({ (machine.load source).1 with tape := tape }, (machine.load source).2) := by
  unfold load
  dsimp only
  rcases machine.memory.load source with ⟨memory, fault | length⟩
  · rfl
  · unfold prepared
    dsimp only
    split <;> rfl

namespace Session

/-- A request that loads a program without a fault. -/
def Loads (session : Session) : Request → Prop
  | .load source profile => (session.load source profile).result.isOk = true
  | _ => False

instance (session : Session) : (request : Request) → Decidable (session.Loads request)
  | .load _ _ => inferInstanceAs (Decidable (_ = true))
  | .reset | .stop | .tick _ _ => inferInstanceAs (Decidable False)

/-- A request that puts a new machine into a session. -/
def Boots (session : Session) : Request → Prop
  | .load source profile => (session.load source profile).result.isOk = true
  | .reset => session.reset.result.isOk = true
  | _ => False

/-- No request of a history is of a kind. -/
def Never (kind : Session → Request → Prop) (session : Session) : List Request → Prop
  | [] => True
  | request :: later => ¬ kind session request ∧ Never kind (session.handle request).1 later

instance decidableNever (kind : Session → Request → Prop)
    [∀ session request, Decidable (kind session request)] (session : Session) :
    (requests : List Request) → Decidable (Never kind session requests)
  | [] => inferInstanceAs (Decidable True)
  | request :: later =>
      have := decidableNever kind (session.handle request).1 later
      inferInstanceAs (Decidable (¬ kind session request ∧ Never kind _ later))

theorem not_never_iff {kind : Session → Request → Prop} (session : Session)
    (requests : List Request) :
    ¬ Never kind session requests ↔
      ∃ earlier request later, requests = earlier ++ request :: later ∧
        kind (session.after earlier) request := by
  induction requests generalizing session with
  | nil => simp [Never]
  | cons first rest ih =>
      rw [Never, Classical.not_and_iff_not_or_not, Classical.not_not, ih]
      constructor
      · rintro (here | ⟨earlier, request, later, rfl, there⟩)
        · exact ⟨[], first, rest, rfl, here⟩
        · exact ⟨first :: earlier, request, later, rfl, there⟩
      · rintro ⟨earlier, request, later, split, isKind⟩
        cases earlier with
        | nil =>
            obtain ⟨rfl, rfl⟩ := List.cons.inj split
            exact .inl isKind
        | cons other earlier =>
            obtain ⟨rfl, rfl⟩ := List.cons.inj split
            exact .inr ⟨earlier, request, later, rfl, isKind⟩

/-! ### Booting -/

variable {session : Session} {program : Program} {source : ProgramSource}

/-- Only the tape of a new machine hangs on the session, if the filter is the same. -/
theorem boot_congr {other : Session} {left right : Profile}
    (sameFilter : session.filter = other.filter) (alike : left.RunsLike right)
    (image : List UInt8) :
    session.boot ⟨image, left⟩ =
      (other.boot ⟨image, right⟩).map fun new => (new.1.onTape session.tape, new.2) := by
  obtain ⟨platform, dialect, rate⟩ := alike
  have made : Machine.ofProfile left session.filter session.tape =
      { Machine.ofProfile right other.filter other.tape with tape := session.tape } := by
    unfold Machine.ofProfile
    rw [sameFilter, platform, dialect]
  unfold boot
  dsimp only
  rw [made, Machine.load_onTape, rate]
  rcases (Machine.ofProfile right other.filter other.tape).load _ with
    ⟨machine, fault | length⟩ <;> rfl

theorem build_congr {other : Session} {left right : Profile}
    (sameFilter : session.filter = other.filter) (alike : left.RunsLike right) :
    session.build source left =
      (other.build source right).map fun new => (new.1.onTape session.currentTape, new.2) := by
  unfold build
  cases source.read with
  | error fault => rfl
  | ok image =>
      have sameWhenEmptied : session.emptied.filter = other.emptied.filter := sameFilter
      exact boot_congr sameWhenEmptied alike image

theorem load_congr {other : Session} {left right : Profile}
    (sameFilter : session.filter = other.filter) (alike : left.RunsLike right) :
    (session.load source left).result = (other.load source right).result ∧
      (session.load source left).session.engine =
        (other.load source right).session.engine.map
          fun engine => engine.onTape session.currentTape := by
  rw [load_eq, load_eq, build_congr sameFilter alike]
  cases other.build source right <;> exact ⟨rfl, rfl⟩

theorem isOk_boot :
    (session.boot program).isOk = true ↔
      program.image ≠ [] ∧ program.image.length ≤ Memory.programCapacity := by
  have loaded : (session.loadAnew program).2 = (Memory.blank.loadImage program.image).2 :=
    Machine.result_load _ _
  rw [boot_eq, loaded, ← Memory.refusal?_eq_none_iff]
  unfold Memory.loadImage
  cases Memory.refusal? program.image with
  | none => exact iff_of_true rfl rfl
  | some fault => exact iff_of_false Bool.false_ne_true (Option.some_ne_none fault)

/-- Where a program boots, it boots in every other session. -/
theorem isOk_boot_congr (other : Session) :
    (session.boot program).isOk = (other.boot program).isOk := by
  rw [Bool.eq_iff_iff, isOk_boot, isOk_boot]

theorem booted_of_isOk (boots : (session.boot program).isOk = true) :
    ∃ engine length, session.boot program = .ok (engine, length) := by
  cases booted : session.boot program with
  | error fault =>
      rw [booted] at boots
      cases boots
  | ok new => exact ⟨new.1, new.2, rfl⟩

theorem tape_of_booted {engine : Engine} {length : Nat}
    (booted : session.boot program = .ok (engine, length)) :
    engine.machine.tape = session.tape :=
  sameBut_of_booted booted .tape (by decide)

/-- A load succeeds exactly with a whole program that is not empty and fits. -/
theorem isOk_load (profile : Profile) :
    (session.load source profile).result.isOk = true ↔
      source.failure = none ∧ source.bytes ≠ [] ∧
        source.bytes.length ≤ Memory.programCapacity := by
  have built : (session.load source profile).result.isOk =
      (session.build source profile).isOk := by
    rw [load_eq]
    cases session.build source profile <;> rfl
  rw [built]
  rcases source with ⟨bytes, failure⟩
  cases failure with
  | some text => exact iff_of_false Bool.false_ne_true fun whole => Option.some_ne_none text whole.1
  | none => exact isOk_boot.trans (and_iff_right rfl).symm

theorem isSome_engine_load (profile : Profile) :
    (session.load source profile).session.engine.isSome =
      (session.load source profile).result.isOk := by
  rw [load_eq]
  cases session.build source profile <;> rfl

theorem loaded_of_isOk {profile : Profile}
    (isLoad : (session.load source profile).result.isOk = true) :
    ∃ engine length, session.emptied.boot ⟨source.bytes, profile⟩ = .ok (engine, length) ∧
      (session.load source profile).session =
        { session.emptied with
          engine := some engine
          program := some ⟨source.bytes, profile⟩ } := by
  rw [load_eq] at isLoad ⊢
  cases built : session.build source profile with
  | error fault =>
      rw [built] at isLoad
      cases isLoad
  | ok new => exact ⟨new.1, new.2, boot_of_build built, rfl⟩

/-- The program that a session remembers can be started again. -/
def Bootable (session : Session) : Prop :=
  ∀ program ∈ session.program, (session.boot program).isOk = true

theorem reset_of_bootable (bootable : session.Bootable)
    (remembered : session.program = some program) :
    ∃ engine length, session.emptied.boot program = .ok (engine, length) ∧
      session.reset =
        ⟨{ session.emptied with engine := some engine }, session.unload.2, .ok ()⟩ := by
  have boots : (session.emptied.boot program).isOk = true :=
    (isOk_boot_congr session).trans (bootable program remembered)
  obtain ⟨engine, length, booted⟩ := booted_of_isOk boots
  refine ⟨engine, length, booted, ?_⟩
  rw [reset_of_remembered remembered, booted]

theorem isOk_reset (bootable : session.Bootable) :
    session.reset.result.isOk = session.program.isSome := by
  cases remembered : session.program with
  | none =>
      rw [reset_of_forgotten remembered]
      rfl
  | some program =>
      obtain ⟨engine, length, _, restarted⟩ := reset_of_bootable bootable remembered
      rw [restarted]
      rfl

/-! ### One request -/

theorem stop_of_unloaded (unloaded : session.engine = none) : session.stop = (session, []) := by
  unfold stop
  rw [unloaded]

theorem tick_of_unloaded (unloaded : session.engine = none) (devices : Devices) (elapsed : Nat) :
    session.tick devices elapsed = ⟨session, [], .error .notLoaded⟩ := by
  unfold tick
  rw [unloaded]

theorem play_of_unloaded (unloaded : session.engine = none) (limit : Option Nat) (now : Nat)
    (passes : List Pass) :
    Loop.play session limit now passes =
      ⟨Loop.start session now, [], [], some (.error .notLoaded)⟩ := by
  unfold Loop.play
  rw [isLoaded, unloaded]
  rfl

/-- The later session has perhaps another engine, and the tape goes on. -/
structure MovesTo (session later : Session) : Prop where
  same : later = { session with engine := later.engine }
  goesOn : session.currentTape.GoesOn later.currentTape

theorem MovesTo.refl (session : Session) : session.MovesTo session :=
  ⟨rfl, .refl _⟩

theorem MovesTo.trans {first second third : Session} (upTo : first.MovesTo second)
    (behind : second.MovesTo third) : first.MovesTo third := by
  refine ⟨?_, upTo.goesOn.trans behind.goesOn⟩
  rw [behind.same, upTo.same]

theorem stop_moves (session : Session) : session.MovesTo session.stop.1 := by
  cases loaded : session.engine with
  | none =>
      rw [stop_of_unloaded loaded]
      exact .refl session
  | some engine =>
      unfold stop
      rw [loaded]
      refine ⟨rfl, ?_⟩
      rw [currentTape, loaded]
      exact .refl _

theorem runEngine_moves {engine : Engine} (loaded : session.engine = some engine)
    (devices : Devices) (elapsed : Nat) :
    session.MovesTo (session.runEngine devices engine elapsed).session := by
  have goesOn := engine.pacer.goesOn_tick engine.machine elapsed
  unfold runEngine
  rcases ticked : engine.pacer.tick engine.machine elapsed with ⟨pacer, machine, fault | report⟩
  · rw [ticked] at goesOn
    refine .trans ⟨rfl, ?_⟩ (stop_moves _)
    rw [currentTape, loaded]
    exact goesOn
  · rw [ticked] at goesOn
    refine ⟨rfl, ?_⟩
    rw [currentTape, loaded]
    exact goesOn

theorem tick_moves (session : Session) (devices : Devices) (elapsed : Nat) :
    session.MovesTo (session.tick devices elapsed).session := by
  cases loaded : session.engine with
  | none =>
      rw [tick_of_unloaded loaded devices elapsed]
      exact .refl session
  | some engine =>
      have asked (keypad : Keypad) : session.MovesTo
          { session with
            engine := some { engine with machine := { engine.machine with keypad := keypad } } } := by
        refine ⟨rfl, ?_⟩
        rw [currentTape, loaded]
        exact .refl _
      unfold tick
      rw [loaded]
      rcases polled : devices.poll engine.machine.keypad with ⟨keypad, failure | answer⟩
      · simp only [polled]
        exact asked keypad
      · cases answer with
        | quit =>
            simp only [polled]
            exact (asked keypad).trans (stop_moves _)
        | proceed =>
            simp only [polled]
            exact (asked keypad).trans (runEngine_moves rfl devices elapsed)

/-- What a request does to the two things that a session keeps. -/
inductive Handling (session : Session) (request : Request) : Prop where
  | loads (source : ProgramSource) (profile : Profile) (engine : Engine) (length : Nat)
      (isLoad : session.Loads request)
      (booted : session.emptied.boot ⟨source.bytes, profile⟩ = .ok (engine, length))
      (later : (session.handle request).1 =
        { session.emptied with
          engine := some engine
          program := some ⟨source.bytes, profile⟩ })
  | moves (noLoad : ¬ session.Loads request) (later : session.MovesTo (session.handle request).1)
  | empties (noLoad : ¬ session.Loads request)
      (later : (session.handle request).1 = session.emptied)
  | restarts (program : Program) (engine : Engine) (length : Nat)
      (noLoad : ¬ session.Loads request)
      (booted : session.emptied.boot program = .ok (engine, length))
      (later : (session.handle request).1 = { session.emptied with engine := some engine })
  | forgets (program : Program) (fault : Fault) (remembered : session.program = some program)
      (refused : session.emptied.boot program = .error fault)
      (later : (session.handle request).1 = { session.emptied with program := none })

theorem handling (session : Session) (request : Request) : Handling session request := by
  cases request with
  | stop =>
      exact .moves (fun isLoad => isLoad) (stop_moves session)
  | tick devices elapsed =>
      exact .moves (fun isLoad => isLoad) (tick_moves session devices elapsed)
  | load source profile =>
      have loaded := load_eq session source profile
      cases built : session.build source profile with
      | error fault =>
          rw [built] at loaded
          refine .empties ?_ (congrArg Reply.session loaded)
          rw [Loads, loaded]
          exact Bool.false_ne_true
      | ok new =>
          rw [built] at loaded
          refine .loads source profile new.1 new.2 ?_ (boot_of_build built)
            (congrArg Reply.session loaded)
          rw [Loads, loaded]
          rfl
  | reset =>
      cases remembered : session.program with
      | none =>
          refine .moves (fun isLoad => isLoad) ?_
          rw [handle, reset_of_forgotten remembered]
          exact .refl session
      | some program =>
          have restarted := reset_of_remembered remembered
          cases booted : session.emptied.boot program with
          | error fault =>
              rw [booted] at restarted
              exact .forgets program fault remembered booted (congrArg Reply.session restarted)
          | ok new =>
              rw [booted] at restarted
              exact .restarts program new.1 new.2 (fun isLoad => isLoad) booted
                (congrArg Reply.session restarted)

theorem filter_handle (session : Session) (request : Request) :
    (session.handle request).1.filter = session.filter := by
  cases handling session request with
  | moves noLoad later => rw [later.same]
  | loads _ _ _ _ _ _ later | empties _ later | restarts _ _ _ _ _ later
  | forgets _ _ _ _ later =>
      rw [later]
      rfl

theorem goesOn_handle (session : Session) (request : Request) :
    session.currentTape.GoesOn (session.handle request).1.currentTape := by
  cases handling session request with
  | moves noLoad later => exact later.goesOn
  | empties _ later | forgets _ _ _ _ later =>
      rw [later]
      exact .refl _
  | loads _ _ engine _ _ booted later | restarts _ engine _ _ booted later =>
      rw [later, ← show engine.machine.tape = session.currentTape from tape_of_booted booted]
      exact .refl _

theorem Bootable.handle (bootable : session.Bootable) (request : Request) :
    (session.handle request).1.Bootable := by
  intro program remembered
  rw [isOk_boot_congr session]
  cases handling session request with
  | loads source profile engine length isLoad booted later =>
      rw [later] at remembered
      cases remembered
      rw [isOk_boot_congr session.emptied, booted]
      rfl
  | moves noLoad later =>
      rw [later.same] at remembered
      exact bootable program remembered
  | empties _ later | restarts _ _ _ _ _ later =>
      rw [later] at remembered
      exact bootable program remembered
  | forgets other fault remembered' refused later =>
      rw [later] at remembered
      cases remembered

/-- A request loads a program to be remembered, or the one that was remembered stays. -/
theorem Bootable.program_handle (bootable : session.Bootable) (request : Request) :
    session.Loads request ∧ (session.handle request).1.program.isSome = true ∨
      ¬ session.Loads request ∧ (session.handle request).1.program = session.program := by
  cases handling session request with
  | loads source profile engine length isLoad booted later =>
      rw [later]
      exact .inl ⟨isLoad, rfl⟩
  | moves noLoad later =>
      rw [later.same]
      exact .inr ⟨noLoad, rfl⟩
  | empties noLoad later | restarts _ _ _ noLoad _ later =>
      rw [later]
      exact .inr ⟨noLoad, rfl⟩
  | forgets program fault remembered refused later =>
      -- this is how a reset would lose the program, but what is remembered boots again
      have boots := bootable program remembered
      rw [isOk_boot_congr session.emptied, refused] at boots
      cases boots

/-- A request that puts no new machine into an empty session leaves it empty and calls no device. -/
theorem unloaded_handle {request : Request} (unloaded : session.engine = none)
    (noBoot : ¬ session.Boots request) :
    (session.handle request).1.engine = none ∧ (session.handle request).2 = [] := by
  have quiet : session.unload.2 = [] := by
    unfold unload
    rw [unloaded]
  cases request with
  | stop =>
      rw [handle, stop_of_unloaded unloaded]
      exact ⟨unloaded, rfl⟩
  | tick devices elapsed =>
      rw [handle, tick_of_unloaded unloaded]
      exact ⟨unloaded, rfl⟩
  | load source profile =>
      rw [Boots, load_eq] at noBoot
      rw [handle, load_eq]
      cases built : session.build source profile with
      | error fault => exact ⟨rfl, quiet⟩
      | ok new =>
          rw [built] at noBoot
          exact absurd rfl noBoot
  | reset =>
      cases remembered : session.program with
      | none =>
          rw [handle, reset_of_forgotten remembered]
          exact ⟨unloaded, rfl⟩
      | some program =>
          rw [Boots, reset_of_remembered remembered] at noBoot
          rw [handle, reset_of_remembered remembered]
          cases booted : session.emptied.boot program with
          | error fault => exact ⟨rfl, quiet⟩
          | ok new =>
              rw [booted] at noBoot
              exact absurd rfl noBoot

/-! ### Histories -/

theorem unloaded_after {requests : List Request} (unloaded : session.engine = none)
    (never : Never Boots session requests) :
    (session.after requests).engine = none ∧ session.calls requests = [] := by
  induction requests generalizing session with
  | nil => exact ⟨unloaded, rfl⟩
  | cons request later ih =>
      obtain ⟨noBoot, neverLater⟩ := never
      obtain ⟨stillUnloaded, quiet⟩ := unloaded_handle unloaded noBoot
      obtain ⟨unloadedThen, quietThen⟩ := ih stillUnloaded neverLater
      rw [after, calls, quiet, quietThen]
      exact ⟨unloadedThen, rfl⟩

theorem filter_after (session : Session) (requests : List Request) :
    (session.after requests).filter = session.filter := by
  induction requests generalizing session with
  | nil => rfl
  | cons request later ih => exact (ih _).trans (session.filter_handle request)

theorem goesOn_after (session : Session) (requests : List Request) :
    session.currentTape.GoesOn (session.after requests).currentTape := by
  induction requests generalizing session with
  | nil => exact .refl _
  | cons request later ih => exact (session.goesOn_handle request).trans (ih _)

theorem Bootable.after (bootable : session.Bootable) (requests : List Request) :
    (session.after requests).Bootable := by
  have kept : ∀ session request, Bootable session → (session.handle request).1.Bootable :=
    fun _ request before => before.handle request
  exact after_keeps kept requests session bootable

theorem program_after_of_never_loads {requests : List Request} (bootable : session.Bootable)
    (never : Never Loads session requests) :
    (session.after requests).program = session.program := by
  induction requests generalizing session with
  | nil => rfl
  | cons request later ih =>
      obtain ⟨noLoad, neverLater⟩ := never
      refine (ih (bootable.handle request) neverLater).trans ?_
      rcases bootable.program_handle request with ⟨isLoad, _⟩ | ⟨_, same⟩
      · exact absurd isLoad noLoad
      · exact same

theorem isSome_program_after (bootable : session.Bootable)
    (remembered : session.program.isSome = true) (requests : List Request) :
    (session.after requests).program.isSome = true := by
  induction requests generalizing session with
  | nil => exact remembered
  | cons request later ih =>
      refine ih (bootable.handle request) ?_
      rcases bootable.program_handle request with ⟨_, loaded⟩ | ⟨_, same⟩
      · exact loaded
      · rw [same]
        exact remembered

/-- Without a load in between a reset brings back what a load has made, where the tape is now. -/
theorem restored_after {profile : Profile} {later : List Request} (bootable : session.Bootable)
    (isLoad : (session.load source profile).result.isOk = true)
    (never : Never Loads (session.load source profile).session later) :
    ∃ engine, (session.load source profile).session.engine = some engine ∧
      ((session.load source profile).session.after later).reset.session.engine =
        some (engine.onTape
          ((session.load source profile).session.after later).currentTape) := by
  obtain ⟨engine, length, booted, loaded⟩ := loaded_of_isOk isLoad
  have bootableThen : (session.load source profile).session.Bootable :=
    bootable.handle (.load source profile)
  have remembered : ((session.load source profile).session.after later).program =
      some ⟨source.bytes, profile⟩ := by
    rw [program_after_of_never_loads bootableThen never, loaded]
  obtain ⟨restarted, _, bootedAgain, restart⟩ :=
    reset_of_bootable (bootableThen.after later) remembered
  have sameFilter : ((session.load source profile).session.after later).emptied.filter =
      session.emptied.filter :=
    (filter_after _ later).trans (session.filter_handle (.load source profile))
  rw [boot_congr sameFilter ⟨rfl, rfl, rfl⟩, booted] at bootedAgain
  cases bootedAgain
  exact ⟨engine, congrArg Session.engine loaded,
    congrArg (fun reply => reply.session.engine) restart⟩

theorem bootable_start (filter : Filter) (tape : Tape) : (start filter tape).Bootable := by
  intro program remembered
  cases remembered

theorem isSome_program_after_iff (filter : Filter) (tape : Tape) (requests : List Request) :
    ((start filter tape).after requests).program.isSome = true ↔
      ∃ earlier source profile later, requests = earlier ++ .load source profile :: later ∧
        (((start filter tape).after earlier).load source profile).result.isOk = true := by
  have bootable := bootable_start filter tape
  constructor
  · intro remembered
    have loads : ¬ Never Loads (start filter tape) requests := by
      intro never
      rw [program_after_of_never_loads bootable never] at remembered
      cases remembered
    obtain ⟨earlier, request, later, split, isLoad⟩ := (not_never_iff _ _).mp loads
    cases request with
    | load source profile => exact ⟨earlier, source, profile, later, split, isLoad⟩
    | reset => exact isLoad.elim
    | stop => exact isLoad.elim
    | tick devices elapsed => exact isLoad.elim
  · rintro ⟨earlier, source, profile, later, rfl, isLoad⟩
    rw [after_append]
    refine isSome_program_after ((bootable.after earlier).handle _) ?_ later
    obtain ⟨engine, length, _, loaded⟩ := loaded_of_isOk isLoad
    exact congrArg (fun session => session.program.isSome) loaded

/-- A history leaves nothing behind but the last good program, and the tape where it stands. -/
structure LeaksNothing (filter : Filter) (tape : Tape) (requests : List Request) : Prop where
  /-- The bytes of the tape are the ones it began with, and none is read twice. -/
  goesOn : ∀ earlier later, requests = earlier ++ later →
    ((start filter tape).after earlier).currentTape.GoesOn
      ((start filter tape).after requests).currentTape
  /-- A load does what it does in a new session with any profile that runs like its own, but that
  the tape is read on, and leaves a machine exactly if it succeeds. -/
  anew : ∀ (source : ProgramSource) (profile other : Profile), profile.RunsLike other →
    let reply := ((start filter tape).after requests).load source profile
    let fresh := (start filter tape).load source other
    reply.result = fresh.result ∧
      reply.session.engine = fresh.session.engine.map
        (fun engine => engine.onTape ((start filter tape).after requests).currentTape) ∧
      reply.session.engine.isSome = reply.result.isOk
  /-- It succeeds exactly with a program that is read to its end, is not empty and fits. -/
  accepts : ∀ (source : ProgramSource) (profile : Profile),
    (((start filter tape).after requests).load source profile).result.isOk = true ↔
      source.failure = none ∧ source.bytes ≠ [] ∧ source.bytes.length ≤ Memory.programCapacity
  /-- Behind a load that failed nothing runs and no device is called, until there is a new
  machine. -/
  unloaded : ∀ (source : ProgramSource) (profile : Profile) (later : List Request),
    let reply := ((start filter tape).after requests).load source profile
    let session := reply.session.after later
    reply.result.isOk = false → Never Boots reply.session later →
      session.engine = none ∧ reply.session.calls later = [] ∧
        (∀ devices elapsed,
          session.tick devices elapsed = ⟨session, [], .error .notLoaded⟩) ∧
        ∀ limit now passes, Loop.play session limit now passes =
          ⟨Loop.start session now, [], [], some (.error .notLoaded)⟩
  /-- A reset succeeds exactly behind a load that succeeded. -/
  resets : ((start filter tape).after requests).reset.result.isOk = true ↔
    ∃ earlier source profile later, requests = earlier ++ .load source profile :: later ∧
      (((start filter tape).after earlier).load source profile).result.isOk = true
  /-- It brings back what the last such load has made, but that the tape is read on. -/
  restores : ∀ earlier source profile later,
    requests = earlier ++ .load source profile :: later →
    let reply := ((start filter tape).after earlier).load source profile
    reply.result.isOk = true → Never Loads reply.session later →
      ∃ engine, reply.session.engine = some engine ∧
        ((start filter tape).after requests).reset.session.engine =
          some (engine.onTape ((start filter tape).after requests).currentTape)

theorem nothing_leaks (filter : Filter) (tape : Tape) (requests : List Request) :
    LeaksNothing filter tape requests := by
  have bootable := (bootable_start filter tape).after
  refine ⟨?_, ?_, ?_, ?_, ?_, ?_⟩
  · rintro earlier later rfl
    rw [after_append]
    exact goesOn_after _ later
  · intro source profile other alike reply fresh
    obtain ⟨result, engine⟩ := load_congr ((start filter tape).filter_after requests) alike
    exact ⟨result, engine, isSome_engine_load profile⟩
  · intro source profile
    exact isOk_load profile
  · intro source profile later reply session failed never
    have none : reply.session.engine = none := by
      rw [← Option.not_isSome_iff_eq_none, isSome_engine_load, failed]
      exact Bool.false_ne_true
    obtain ⟨noneThen, quiet⟩ := unloaded_after none never
    exact ⟨noneThen, quiet, tick_of_unloaded noneThen, play_of_unloaded noneThen⟩
  · rw [isOk_reset (bootable requests)]
    exact isSome_program_after_iff filter tape requests
  · rintro earlier source profile later rfl reply isLoad never
    rw [after_append]
    exact restored_after (bootable earlier) isLoad never

/-- It reads a random byte, writes over its own first byte and ends. -/
def overwriting : ProgramSource :=
  ⟨[0xC1, 0xFF, 0xA2, 0x00, 0x60, 0x12, 0xF0, 0x55, 0x00, 0xFD], none⟩

def overwritingProfile : Profile :=
  .ofPlatform "overwriting" .superChip

/-- The program runs to its end, and then an empty one is refused. -/
def overwritingRequests : List Request :=
  [.load overwriting overwritingProfile,
    .tick ⟨fun keypad => (keypad, .ok .proceed), fun _ => none⟩ 16000000,
    .load ⟨[], none⟩ overwritingProfile]

theorem nothing_leaks_overwriting :
    let fresh := start .none ⟨fun _ => 0, 0⟩
    ((fresh.after (overwritingRequests.take 2)).engine.map fun engine =>
        (engine.machine.memory.read 0x200, engine.pacer.isRunning)) = some (0x12, false) ∧
      (fresh.after overwritingRequests).isLoaded = false ∧
      (fresh.after overwritingRequests).currentTape.position = 1 ∧
      ∃ engine, (fresh.load overwriting overwritingProfile).session.engine = some engine ∧
        (fresh.after overwritingRequests).reset.session.engine =
          some (engine.onTape (fresh.after overwritingRequests).currentTape) := by
  have ran :
      let fresh := start .none ⟨fun _ => 0, 0⟩
      ((fresh.after (overwritingRequests.take 2)).engine.map fun engine =>
          (engine.machine.memory.read 0x200, engine.pacer.isRunning)) = some (0x12, false) ∧
        (fresh.after overwritingRequests).isLoaded = false ∧
        (fresh.after overwritingRequests).currentTape.position = 1 ∧
        (fresh.load overwriting overwritingProfile).result.isOk = true ∧
        Never Loads (fresh.load overwriting overwritingProfile).session
          (overwritingRequests.drop 1) := by
    decide +kernel
  have restored := (nothing_leaks .none ⟨fun _ => 0, 0⟩ overwritingRequests).restores [] overwriting
    overwritingProfile (overwritingRequests.drop 1) rfl
  obtain ⟨overwrote, unloaded, position, isLoad, never⟩ := ran
  exact ⟨overwrote, unloaded, position, restored isLoad never⟩

end Session
end Chip8
