import Chip8.Session.Loop
import Chip8.Terminal.Keyboard
import Chip8.Terminal.Raster
import Chip8.Terminal.Speaker
import Chip8.Terminal.Usage

set_option autoImplicit false

/-!
The program: it reads the command line and a program image, and lets a session run against
the clock, with the terminal's characters as keys and its screen for pictures.
-/

namespace Chip8.Main

open Terminal

/-- The key event of a byte that was typed. -/
def eventOfByte (byte : UInt8) : KeyEvent :=
  if byte = 0x1b then .escape
  else if byte < 0x80 then .character (Char.ofNat byte.toNat)
  else .other

partial def readKeys (input : IO.FS.Stream) (queue : IO.Ref (List KeyEvent)) : IO Unit := do
  let bytes ← input.read 64
  if bytes.size = 0 then return
  queue.modify fun events => events ++ bytes.toList.map eventOfByte
  readKeys input queue

def terminalSize : IO (Nat × Nat) := do
  let number (name : String) (usual : Nat) : IO Nat := do
    return ((← IO.getEnv name).bind String.toNat?).getD usual
  return (← number "COLUMNS" 132, ← number "LINES" 68)

structure Surroundings where
  title : String
  columns : Nat
  rows : Nat
  output : IO.FS.Stream
  queue : IO.Ref (List KeyEvent)

def write (surroundings : Surroundings) (commands : List ScreenCommand) : IO Unit := do
  for command in commands do
    surroundings.output.putStr command.text
  surroundings.output.flush

def perform (surroundings : Surroundings) (speaker : Speaker) :
    DeviceCall → IO Speaker
  | .poll _ => return speaker
  | .tone edge => do
      let sounded := speaker.sound none edge
      if sounded.frequencies.contains pitch then
        surroundings.output.putStr "\x07"
      return sounded.speaker
  | .draw frame => do
      write surroundings [.show (Drawing.ofFrame surroundings.title surroundings.columns
        surroundings.rows frame)]
      return speaker

/-- Makes passes until the loop ends. -/
partial def play (surroundings : Surroundings) (keyboard : Keyboard) (speaker : Speaker)
    (loop : Loop) : IO (Except Fault Unit) := do
  let events ← surroundings.queue.modifyGet fun events => (events, [])
  let polled := keyboard.poll Keypad.idle events
  surroundings.queue.modify fun later => polled.waiting ++ later
  let devices : Devices :=
    { poll := fun keypad =>
        let polled := keyboard.poll keypad events
        (polled.keypad, polled.answer)
      draw := fun _ => none }
  let now ← IO.monoNanosNow
  let made := Loop.run none loop [{ now := now, devices := devices }]
  let mut sounding := speaker
  for call in made.calls do
    sounding ← perform surroundings sounding call
  match made.ending with
  | some ending => return ending
  | none =>
      let spent := (← IO.monoNanosNow) - now
      IO.sleep (UInt32.ofNat ((refreshInterval - spent) / 1000000))
      play surroundings polled.keyboard sounding made.loop

def run (options : CommandLine.Options) : IO UInt32 := do
  let image ← IO.FS.readBinFile options.file
  let tape := Tape.ofSeed (UInt64.ofNat (← IO.monoNanosNow))
  let source : ProgramSource := { bytes := image.toList, failure := none }
  let loaded := (Session.start options.filter tape).load source options.profile
  match loaded.result with
  | .error fault => do
      IO.eprintln ("Error: " ++ fault.message)
      return 1
  | .ok _ => do
      let queue ← IO.mkRef []
      let _ ← IO.asTask (readKeys (← IO.getStdin) queue) Task.Priority.dedicated
      let (columns, rows) ← terminalSize
      let surroundings : Surroundings :=
        { title := options.shownTitle
          columns := columns
          rows := rows
          output := ← IO.getStdout
          queue := queue }
      let speaker : Speaker := if options.sound then .beeper false else .mute
      write surroundings opening
      let now ← IO.monoNanosNow
      let ending ← tryFinally
        (play surroundings Keyboard.idle speaker (Loop.start loaded.session now))
        (write surroundings closing)
      match ending with
      | .ok () => return 0
      | .error fault => do
          IO.eprintln ("Error: " ++ fault.message)
          return 1

end Chip8.Main

def main (arguments : List String) : IO UInt32 := do
  match Chip8.Terminal.CommandLine.parse arguments with
  | .ok options => Chip8.Main.run options
  | .error problem =>
      if problem.isRequest then
        IO.println problem.text
        return 0
      else
        IO.eprintln problem.text
        return 2
