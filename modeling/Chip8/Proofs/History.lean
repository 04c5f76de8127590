import Chip8.Proofs.Footprint
import Chip8.Session

set_option autoImplicit false

/-!
Histories of a session: requests handled one after the other, with all the calls to devices that
come of them. The state behind a history and its calls are put together from those of its parts.
-/

namespace Chip8

inductive Request where
  | load (source : ProgramSource) (profile : Profile)
  | reset
  | stop
  | tick (devices : Devices) (elapsed : Nat)

namespace Session

/-! ### Loading and starting again -/

/-- Where the next random byte comes from. -/
def currentTape (session : Session) : Tape :=
  match session.engine with
  | none => session.tape
  | some engine => engine.machine.tape

/-- The session without its machine. -/
def emptied (session : Session) : Session :=
  { session with engine := none, tape := session.currentTape }

theorem unload_eq (session : Session) :
    session.unload = (session.emptied, session.unload.2) := by
  rcases session with ⟨filter, tape, engine, program⟩
  cases engine <;> rfl

/-- A program loaded into a new machine. -/
def loadAnew (session : Session) (program : Program) : Machine × Except Fault Nat :=
  (Machine.ofProfile program.profile session.filter session.tape).load
    { bytes := program.image, failure := none }

theorem boot_eq (session : Session) (program : Program) :
    session.boot program =
      (session.loadAnew program).2.map fun length =>
        (⟨(session.loadAnew program).1, Pacer.ofRate program.profile.rate, .ofNat 0⟩, length) := by
  unfold boot loadAnew
  dsimp only
  rcases (Machine.ofProfile program.profile session.filter session.tape).load _ with
    ⟨machine, fault | length⟩ <;> rfl

theorem engine_of_booted {session : Session} {program : Program} {engine : Engine} {length : Nat}
    (booted : session.boot program = .ok (engine, length)) :
    engine = ⟨(session.loadAnew program).1, Pacer.ofRate program.profile.rate, .ofNat 0⟩ := by
  rw [boot_eq] at booted
  cases loaded : (session.loadAnew program).2 with
  | error fault =>
      rw [loaded] at booted
      cases booted
  | ok length =>
      rw [loaded] at booted
      cases booted
      rfl

/-- A new machine is as it was made, but for the program and where it starts. -/
theorem sameBut_of_booted {session : Session} {program : Program} {engine : Engine}
    {length : Nat} (booted : session.boot program = .ok (engine, length)) :
    Machine.SameBut [.memory, .screen, .pc] engine.machine
      (Machine.ofProfile program.profile session.filter session.tape) := by
  rw [engine_of_booted booted]
  exact Machine.load_sameBut _ _

/-- What a source makes: a machine at the start of its program with the length of the program,
or a fault. -/
def build (session : Session) (source : ProgramSource) (profile : Profile) :
    Except Fault (Engine × Nat) :=
  source.read.bind fun image => session.emptied.boot ⟨image, profile⟩

theorem boot_of_build {session : Session} {source : ProgramSource} {profile : Profile}
    {new : Engine × Nat} (built : session.build source profile = .ok new) :
    session.emptied.boot ⟨source.bytes, profile⟩ = .ok new := by
  rcases source with ⟨bytes, failure⟩
  cases failure with
  | some text => cases built
  | none => exact built

theorem load_eq (session : Session) (source : ProgramSource) (profile : Profile) :
    session.load source profile =
      match session.build source profile with
      | .error fault => ⟨session.emptied, session.unload.2, .error fault⟩
      | .ok (engine, length) =>
          ⟨{ session.emptied with
              engine := some engine
              program := some ⟨source.bytes, profile⟩ },
            session.unload.2, .ok length⟩ := by
  rcases source with ⟨bytes, failure⟩
  unfold load
  rw [unload_eq]
  cases failure with
  | some text => rfl
  | none =>
      have sameBoot : session.emptied.boot ⟨bytes, profile⟩ =
          session.build ⟨bytes, none⟩ profile := rfl
      cases built : session.build ⟨bytes, none⟩ profile <;>
        simp only [ProgramSource.read, sameBoot, built]

theorem reset_of_forgotten {session : Session} (forgotten : session.program = none) :
    session.reset = ⟨session, [], .error .notLoaded⟩ := by
  unfold reset
  rw [forgotten]

theorem reset_of_remembered {session : Session} {program : Program}
    (remembered : session.program = some program) :
    session.reset =
      match session.emptied.boot program with
      | .error fault =>
          ⟨{ session.emptied with program := none }, session.unload.2, .error fault⟩
      | .ok (engine, _) =>
          ⟨{ session.emptied with engine := some engine }, session.unload.2, .ok ()⟩ := by
  unfold reset
  rewrite [remembered, unload_eq]
  cases booted : session.emptied.boot program <;> simp only [booted]

/-! ### Histories -/

/-- The session after a request, and the calls to devices that the request makes. -/
def handle (session : Session) : Request → Session × List DeviceCall
  | .load source profile =>
      ((session.load source profile).session, (session.load source profile).calls)
  | .reset => (session.reset.session, session.reset.calls)
  | .stop => session.stop
  | .tick devices elapsed =>
      ((session.tick devices elapsed).session, (session.tick devices elapsed).calls)

def after (session : Session) : List Request → Session
  | [] => session
  | request :: later => (session.handle request).1.after later

def calls (session : Session) : List Request → List DeviceCall
  | [] => []
  | request :: later => (session.handle request).2 ++ (session.handle request).1.calls later

theorem after_append (session : Session) (earlier later : List Request) :
    session.after (earlier ++ later) = (session.after earlier).after later := by
  induction earlier generalizing session with
  | nil => rfl
  | cons request earlier ih => exact ih _

theorem calls_append (session : Session) (earlier later : List Request) :
    session.calls (earlier ++ later) =
      session.calls earlier ++ (session.after earlier).calls later := by
  induction earlier generalizing session with
  | nil => rfl
  | cons request earlier ih =>
      rw [List.cons_append, calls, calls, after, ih, List.append_assoc]

theorem after_snoc (session : Session) (earlier : List Request) (request : Request) :
    session.after (earlier ++ [request]) = ((session.after earlier).handle request).1 :=
  after_append session earlier [request]

theorem calls_snoc (session : Session) (earlier : List Request) (request : Request) :
    session.calls (earlier ++ [request]) =
      session.calls earlier ++ ((session.after earlier).handle request).2 := by
  rw [calls_append, calls, calls, List.append_nil]

theorem after_keeps {holds : Session → Prop}
    (kept : ∀ session request, holds session → holds (session.handle request).1)
    (requests : List Request) (session : Session) (before : holds session) :
    holds (session.after requests) := by
  induction requests generalizing session with
  | nil => exact before
  | cons request later ih => exact ih _ (kept session request before)

end Session
end Chip8
