import Chip8.Proofs.WordStep

set_option autoImplicit false

/-!
The machine in words from its first moment on: made for a program, loaded, and asked for steps,
sprites, keys, refreshes and pictures in any order.

Main statement: nothing that is asked of it ever fails (`actAll?_loaded`), so no sum leaves its
word and no place lies outside its array. It goes through the states of the machine, in which
addresses stay below 4096 and memory and screen keep their sizes.
-/

namespace Chip8

/-! ### What is asked of a machine -/

inductive Act where
  | step
  | draw (request : DrawRequest)
  /-- The end of a wait for a key, which goes into the register in the low four bits. -/
  | takeKey (register : UInt8)
  | press (key : UInt8)
  | release (key : UInt8)
  | countDown
  | look
  deriving DecidableEq

inductive Answer where
  | stepped (result : Except Fault Outcome)
  | drawn
  | taken (found : Bool)
  | noted
  | counted (edge : Option Tone)
  | seen (pixels : List Pixel)

/-- A step has gone on, or has found a word that is no instruction. -/
def Answer.Expected : Answer → Prop
  | .stepped (.error fault) => ∃ address opcode, fault = .unknownOpcode address opcode
  | _ => True

namespace Machine

def act (machine : Machine) : Act → Machine × Answer
  | .step => (machine.step.1, .stepped machine.step.2)
  | .draw request => (machine.drawSprite request, .drawn)
  | .takeKey register =>
      match machine.takeKey? (Register.ofNat register.toNat) with
      | none => (machine, .taken false)
      | some taken => (taken, .taken true)
  | .press key => ({ machine with keypad := machine.keypad.pressByte key }, .noted)
  | .release key => ({ machine with keypad := machine.keypad.releaseByte key }, .noted)
  | .countDown =>
      ({ machine with timers := machine.timers.decrement.1 }, .counted machine.timers.decrement.2)
  | .look => (machine, .seen machine.screen.frame.pixels.toList)

def actAll (machine : Machine) : List Act → Machine × List Answer
  | [] => (machine, [])
  | act :: rest =>
      (((machine.act act).1.actAll rest).1,
        (machine.act act).2 :: ((machine.act act).1.actAll rest).2)

end Machine

namespace Words

def subByte? (left right : UInt8) : Option UInt8 :=
  if right ≤ left then some (left - right) else none

def lower? (value : UInt8) : Option UInt8 :=
  if value = 0 then some 0 else subByte? value 1

def takeKey? (words : Words) (register : UInt8) : Option (Words × Answer) :=
  match words.keypad.take? with
  | none => some (words, .taken false)
  | some (key, keypad) => do
      let taken ← { words with keypad := keypad }.setRegister? register (UInt8.ofNat key.val)
      some (taken, .taken true)

/-- A refresh. The delay timer stops at zero, and the sound timer is left alone there. -/
def countDown? (words : Words) : Option (Words × Answer) := do
  let delay ← lower? words.timers.delay
  if words.timers.sound = 0 then
    some ({ words with timers := ⟨delay, words.timers.sound⟩ }, .counted none)
  else
    let sound ← subByte? words.timers.sound 1
    some ({ words with timers := ⟨delay, sound⟩ },
      .counted (if sound = 0 then some .stop else none))

def act? (words : Words) : Act → Option (Words × Answer)
  | .step => do
      let (stepped, result) ← words.step?
      some (stepped, .stepped result)
  | .draw request => do
      let drawn ← words.drawSprite? request
      some (drawn, .drawn)
  | .takeKey register => words.takeKey? register
  | .press key => some ({ words with keypad := words.keypad.pressByte key }, .noted)
  | .release key => some ({ words with keypad := words.keypad.releaseByte key }, .noted)
  | .countDown => words.countDown?
  | .look => do
      let pixels ← pixels? words.resolution words.cells
      some (words, .seen pixels)

def actAll? (words : Words) : List Act → Option (Words × List Answer)
  | [] => some (words, [])
  | act :: rest => do
      let (next, answer) ← words.act? act
      let (last, answers) ← next.actAll? rest
      some (last, answer :: answers)

/-! ### From the start to a loaded program -/

def writeSlice? (words : Words) (address : UInt16) (data : List UInt8) : Option Words := do
  let start := address.toNat
  let stop ← addSize? start data.length
  if stop ≤ words.bytes.size then
    some { words with
      bytes := words.bytes.extract 0 start ++ data.toArray ++
        words.bytes.extract stop words.bytes.size }
  else none

def empty (profile : Profile) (filter : Filter) (tape : Tape) : Words where
  bytes := Array.replicate 4096 0
  cells := Array.replicate 8192 Pixel.dark
  resolution := .low
  filter := filter
  timers := Timers.idle
  keypad := Keypad.idle
  platform := profile.platform
  dialect := profile.dialect
  registers := Array.replicate 16 0
  index := 0
  pc := 0x200
  stack := []
  flags := Array.replicate 16 0
  tone := none
  tape := tape

def ofProfile? (profile : Profile) (filter : Filter) (tape : Tape) : Option Words := do
  let small ← (empty profile filter tape).writeSlice? 0x000 Font.small
  small.writeSlice? 0x050 Font.big

/-- Where a loaded program starts, and on which screen. -/
def prepare? (words : Words) : Option Words := do
  let first ← words.readWord? 0x200
  if words.platform.hasTallScreen && first == 0x1260 then
    some { words with resolution := .tall, pc := 0x2C0 }
  else some words

def load? (words : Words) (image : List UInt8) : Option (Words × Except Fault Nat) :=
  match Memory.refusal? image with
  | some fault => some (words, .error fault)
  | none => do
      let loaded ← words.writeSlice? 0x200 image
      let prepared ← loaded.prepare?
      some (prepared, .ok image.length)

section Loading

variable (machine : Machine)

theorem toArray_writeAll (memory : Memory) {start : Nat} (inside : start < 4096)
    (data : List UInt8) (fits : start + data.length ≤ 4096) :
    (memory.writeAll (Address.ofNat start) data).bytes.toArray =
      memory.bytes.toArray.extract 0 start ++ data.toArray ++
        memory.bytes.toArray.extract (start + data.length) 4096 := by
  refine Array.ext (by simp; omega) ?_
  intro place inMemory inSlices
  rw [Vector.size_toArray] at inMemory
  have written := memory.read_writeAll (Address.ofNat start) ⟨place, inMemory⟩ data (by omega)
  have distance : ((⟨place, inMemory⟩ : Address) - Address.ofNat start).val =
      (4096 - start + place) % 4096 := by
    rw [Fin.sub_def, Address.val_ofNat, Nat.mod_eq_of_lt inside]
  have least : min start 4096 = start := Nat.min_eq_left (Nat.le_of_lt inside)
  rw [distance] at written
  rw [Vector.getElem_toArray]
  refine written.trans ?_
  by_cases before : place < start
  · -- in front of the block the distance wraps, and lies past the end of the data
    rw [Array.getElem_append_left (by simp; omega), Array.getElem_append_left (by simp; omega),
      List.getElem?_eq_none (by omega), Array.getElem_extract]
    simp [Memory.read]
  · by_cases replaced : place < start + data.length
    · have offset : (4096 - start + place) % 4096 = place - start := by omega
      rw [Array.getElem_append_left (by simp; omega), Array.getElem_append_right (by simp; omega),
        offset, List.getElem?_eq_getElem (by omega)]
      simp [least]
    · have behind : start + data.length + (place - (start + data.length)) = place := by omega
      rw [Array.getElem_append_right (by simp; omega), List.getElem?_eq_none (by omega),
        Array.getElem_extract]
      simp [Memory.read, least, behind]

theorem writeSlice?_words {address : UInt16} (inside : address.toNat < 4096) (data : List UInt8)
    (fits : address.toNat + data.length ≤ 4096) :
    machine.words.writeSlice? address data =
      some { machine with
        memory := machine.memory.writeAll (Address.ofNat address.toNat) data }.words := by
  have counted : address.toNat + data.length < sizeLimit := by
    unfold sizeLimit
    omega
  have size : machine.words.bytes.size = 4096 := machine.memory.bytes.size_toArray
  have bytes := toArray_writeAll machine.memory inside data fits
  rw [writeSlice?, addSize?_eq counted, some_bind, size, if_pos fits]
  change some { machine.words with bytes := machine.memory.bytes.toArray.extract 0 address.toNat ++
    data.toArray ++ machine.memory.bytes.toArray.extract (address.toNat + data.length) 4096 } = _
  rw [← bytes]
  rfl

theorem ofProfile?_words (profile : Profile) (filter : Filter) (tape : Tape) :
    ofProfile? profile filter tape = some (Machine.ofProfile profile filter tape).words := by
  have bytes : Array.replicate 4096 0 = (Vector.replicate 4096 (0 : UInt8)).toArray :=
    Vector.toArray_replicate.symm
  have cells : Array.replicate 8192 Pixel.dark = Grid.dark.cells.toArray :=
    Vector.toArray_replicate.symm
  have registers : Array.replicate 16 0 = (Vector.replicate 16 (0 : UInt8)).toArray :=
    Vector.toArray_replicate.symm
  have unwritten : empty profile filter tape =
      { Machine.ofProfile profile filter tape with
        memory := ⟨Vector.replicate 4096 0⟩ }.words := by
    rw [empty, bytes, cells, registers]
    rfl
  have smallStart : (0x000 : UInt16).toNat = Font.smallStart := rfl
  have bigStart : (0x050 : UInt16).toNat = Font.bigStart := rfl
  have smallFits : (0x000 : UInt16).toNat + Font.small.length ≤ 4096 := by decide +kernel
  have bigFits : (0x050 : UInt16).toNat + Font.big.length ≤ 4096 := by decide +kernel
  rw [ofProfile?, unwritten, writeSlice?_words _ (by decide) Font.small smallFits, some_bind,
    writeSlice?_words _ (by decide) Font.big bigFits, smallStart, bigStart]
  rfl

theorem prepare?_words : machine.words.prepare? = some machine.prepared.words := by
  have start : Address.ofNat (0x200 : UInt16).toNat = Memory.programStart := by decide
  rw [prepare?, readWord?_words, some_bind, start, Machine.prepared]
  change (if (machine.platform.hasTallScreen &&
    machine.memory.word Memory.programStart == Machine.tallScreenMark) = true then _ else _) = _
  by_cases tall : (machine.platform.hasTallScreen &&
      machine.memory.word Memory.programStart == Machine.tallScreenMark) = true
  · rw [if_pos tall, if_pos tall]
    rfl
  · rw [if_neg tall, if_neg tall]

theorem load?_words (image : List UInt8) :
    machine.words.load? image =
      some ((machine.load ⟨image, none⟩).1.words, (machine.load ⟨image, none⟩).2) := by
  have read : machine.memory.load ⟨image, none⟩ = machine.memory.loadImage image := rfl
  rw [load?, Machine.load, read, Memory.loadImage]
  cases accepted : Memory.refusal? image with
  | some fault => rfl
  | none =>
      have fits : (0x200 : UInt16).toNat + image.length ≤ 4096 := by
        change 512 + image.length ≤ 4096
        unfold Memory.refusal? Memory.programCapacity at accepted
        grind
      simp only
      rw [writeSlice?_words machine (by decide) image fits, some_bind, prepare?_words, some_bind]
      rfl

end Loading

/-! ### Every act -/

section Acts

variable (machine : Machine)

theorem subByte?_eq {value : UInt8} (positive : value ≠ 0) :
    subByte? value 1 = some (value - 1) := by
  have one : 1 ≤ value.toNat := by
    apply Nat.one_le_iff_ne_zero.mpr
    intro zero
    exact positive (UInt8.toNat_inj.mp zero)
  have atLeast : 1 ≤ value := UInt8.le_iff_toNat_le.mpr one
  exact if_pos atLeast

theorem lower?_eq (value : UInt8) : lower? value = some (Timers.countDown value) := by
  rw [lower?, Timers.countDown]
  by_cases zero : value = 0
  · rw [if_pos zero, if_pos zero]
  · rw [if_neg zero, if_neg zero, subByte?_eq zero]

theorem takeKey?_words (register : UInt8) :
    machine.words.takeKey? register =
      some ((machine.act (.takeKey register)).1.words, (machine.act (.takeKey register)).2) := by
  have keypad : machine.words.keypad = machine.keypad := rfl
  rw [takeKey?, Machine.act, Machine.takeKey?, keypad]
  cases taken : machine.keypad.take? with
  | none => rfl
  | some key =>
      rcases key with ⟨key, left⟩
      have set := setRegister?_words { machine with keypad := left } register (UInt8.ofNat key.val)
      change (setRegister? { machine with keypad := left }.words register _ >>= _) = _
      rw [set]
      rfl

theorem countDown?_words :
    machine.words.countDown? =
      some ((machine.act .countDown).1.words, (machine.act .countDown).2) := by
  have timers : machine.words.timers = machine.timers := rfl
  rw [countDown?, timers, lower?_eq, some_bind, Machine.act, Timers.decrement]
  by_cases zero : machine.timers.sound = 0
  · have silent : Timers.countDown machine.timers.sound = machine.timers.sound := by
      rw [Timers.countDown, if_pos zero, zero]
    rw [if_pos zero, silent, Timers.edge, if_pos zero, if_pos zero]
    rfl
  · have less : Timers.countDown machine.timers.sound = machine.timers.sound - 1 := if_neg zero
    rw [if_neg zero, subByte?_eq zero, some_bind, less, Timers.edge, if_neg zero]
    rfl

theorem act?_words (act : Act) :
    machine.words.act? act = some ((machine.act act).1.words, (machine.act act).2) := by
  cases act with
  | step =>
      rw [act?, step?_words]
      rfl
  | draw request =>
      rw [act?, drawSprite?_words]
      rfl
  | takeKey register => exact takeKey?_words machine register
  | press key => rfl
  | release key => rfl
  | countDown => exact countDown?_words machine
  | look =>
      have shown : pixels? machine.words.resolution machine.words.cells =
          some machine.screen.frame.pixels.toList := pixels?_eq machine.screen
      rw [act?, shown]
      rfl

theorem actAll?_words (acts : List Act) :
    machine.words.actAll? acts =
      some ((machine.actAll acts).1.words, (machine.actAll acts).2) := by
  induction acts generalizing machine with
  | nil => rfl
  | cons act rest ih =>
      rw [actAll?, act?_words, some_bind]
      simp only
      rw [ih, some_bind, Machine.actAll]

theorem expected_act (act : Act) : (machine.act act).2.Expected := by
  cases act with
  | step =>
      rw [Machine.act]
      cases stepped : machine.step with
      | mk later result =>
          cases result with
          | ok outcome => trivial
          | error fault => exact ⟨_, _, (Machine.step_error stepped).2⟩
  | takeKey register =>
      rw [Machine.act]
      split <;> trivial
  | _ => trivial

theorem expected_actAll (acts : List Act) :
    ∀ answer ∈ (machine.actAll acts).2, answer.Expected := by
  induction acts generalizing machine with
  | nil =>
      intro answer member
      cases member
  | cons act rest ih =>
      intro answer member
      rcases List.mem_cons.mp member with rfl | later
      · exact expected_act machine act
      · exact ih _ answer later

end Acts

private theorem load_accepted (machine : Machine) {image : List UInt8}
    (accepted : Memory.refusal? image = none) :
    (machine.load ⟨image, none⟩).2 = .ok image.length := by
  have read : machine.memory.load ⟨image, none⟩ = machine.memory.loadImage image := rfl
  rw [Machine.load, read, Memory.loadImage, accepted]

/-- A program that fits is loaded, and whatever is asked of the machine then, nothing fails. Sums
stay inside their words and places inside their arrays, the machine stays in range, and a step
gives an outcome or meets a word that is no instruction. -/
theorem actAll?_loaded (profile : Profile) (filter : Filter) (tape : Tape) (image : List UInt8)
    (nonempty : 1 ≤ image.length) (fits : image.length ≤ 3584) (acts : List Act) :
    ∃ loaded : Machine,
      (Machine.ofProfile profile filter tape).load ⟨image, none⟩ = (loaded, .ok image.length) ∧
      (ofProfile? profile filter tape >>= fun words => words.load? image) =
        some (loaded.words, .ok image.length) ∧
      loaded.words.actAll? acts =
        some ((loaded.actAll acts).1.words, (loaded.actAll acts).2) ∧
      (loaded.actAll acts).1.words.InRange ∧
      ∀ answer ∈ (loaded.actAll acts).2, answer.Expected := by
  have accepted : Memory.refusal? image = none := by
    rw [Memory.refusal?, if_neg (by omega), if_neg]
    change ¬ 3584 < image.length
    omega
  have length := load_accepted (Machine.ofProfile profile filter tape) accepted
  refine ⟨((Machine.ofProfile profile filter tape).load ⟨image, none⟩).1, ?_, ?_,
    actAll?_words _ acts, inRange_words _, expected_actAll _ acts⟩
  · rw [← length]
  · rw [ofProfile?_words, some_bind, load?_words, length]

/-- A program for the extended machine. It puts digits over the end of memory, reads a sprite
from there, scrolls, and jumps to a word that is no instruction. -/
def edgeImage : List UInt8 :=
  [0x00, 0xFF, 0xAF, 0xFF, 0xF0, 0x33, 0xD0, 0x10, 0xF5, 0x1E, 0xF7, 0x55, 0x00, 0xCF, 0x1F, 0xFE]

def edgeActs : List Act :=
  [.step, .step, .draw ⟨255, 255, 255⟩, .step, .press 200, .press 3, .takeKey 0xFF, .step,
    .countDown, .step, .step, .look, .step, .step, .step]

theorem actAll?_loaded_edge :
    (1 ≤ edgeImage.length ∧ edgeImage.length ≤ 3584) ∧
      ∃ loaded : Machine,
        (ofProfile? (Profile.ofPlatform "edge" .superChip) .none (Tape.ofSeed 0) >>=
          fun words => words.load? edgeImage) = some (loaded.words, .ok 16) ∧
        loaded.words.actAll? edgeActs =
          some ((loaded.actAll edgeActs).1.words, (loaded.actAll edgeActs).2) ∧
        (loaded.actAll edgeActs).1.words.InRange ∧
        ∀ answer ∈ (loaded.actAll edgeActs).2, answer.Expected := by
  obtain ⟨loaded, _, booted, acted, inRange, expected⟩ :=
    actAll?_loaded (Profile.ofPlatform "edge" .superChip) .none (Tape.ofSeed 0) edgeImage
      (by decide) (by decide) edgeActs
  exact ⟨by decide, loaded, booted, acted, inRange, expected⟩

end Words
end Chip8
