import Chip8.Proofs.Footprint

set_option autoImplicit false

/-!
Loading a program into a machine in any state. Reading the source and judging its length come before
anything is written, and a program of a length that is accepted lies inside memory
(`replaceBlock?_programStart`), so a load either places the whole program or leaves the machine as
it was.

Main statement: `load_all_or_nothing`.
-/

namespace Chip8

/-! ### Sources -/

namespace ProgramSource

variable (source : ProgramSource)

/-- The source can be read to its end and has a program that fits. -/
def Loads : Prop :=
  source.failure = none ∧ 1 ≤ source.bytes.length ∧ source.bytes.length ≤ 3584

/-- The reason for which a source is refused. The failure of the source comes before those that its
length gives. -/
def Refused (fault : Fault) : Prop :=
  match source.failure with
  | some text => fault = .device text
  | none =>
      source.bytes.length = 0 ∧ fault = .emptyProgram ∨
        3584 < source.bytes.length ∧ fault = .programTooLarge source.bytes.length 3584

instance : Decidable source.Loads := by
  unfold Loads
  infer_instance

end ProgramSource

namespace Memory

theorem refusal?_of_some {image : List UInt8} {fault : Fault}
    (refused : refusal? image = some fault) :
    image.length = 0 ∧ fault = .emptyProgram ∨
      3584 < image.length ∧ fault = .programTooLarge image.length 3584 := by
  unfold refusal? at refused
  by_cases empty : image.length = 0
  · rw [if_pos empty] at refused
    exact .inl ⟨empty, (Option.some.inj refused).symm⟩
  · rw [if_neg empty] at refused
    obtain ⟨large, same⟩ := Option.ite_none_right_eq_some.mp refused
    exact .inr ⟨large, (Option.some.inj same).symm⟩

theorem refusal?_of_length {image : List UInt8} (nonempty : 1 ≤ image.length)
    (fits : image.length ≤ 3584) : refusal? image = none := by
  rw [refusal?_eq_none_iff]
  exact ⟨List.ne_nil_of_length_pos nonempty, fits⟩

/-- The block of an accepted program lies inside memory. -/
theorem replaceBlock?_programStart (memory : Memory) {image : List UInt8}
    (fits : image.length ≤ 3584) :
    memory.replaceBlock? 0x200 image = some (memory.writeAll programStart image) := by
  rw [replaceBlock?, if_pos (by omega)]
  rfl

theorem load_of_loads (memory : Memory) {source : ProgramSource} (loads : source.Loads) :
    memory.load source =
      (memory.writeAll programStart source.bytes, .ok source.bytes.length) := by
  obtain ⟨whole, nonempty, fits⟩ := loads
  rw [load, ProgramSource.read, whole]
  simp only
  rw [loadImage, refusal?_of_length nonempty fits]

theorem load_of_not_loads (memory : Memory) {source : ProgramSource} (refused : ¬source.Loads) :
    ∃ fault, memory.load source = (memory, .error fault) ∧ source.Refused fault := by
  rcases source with ⟨image, failure⟩
  cases failure with
  | some text => exact ⟨.device text, rfl, rfl⟩
  | none =>
      cases judged : refusal? image with
      | some fault =>
          refine ⟨fault, ?_, refusal?_of_some judged⟩
          change memory.loadImage image = _
          rw [loadImage, judged]
      | none =>
          obtain ⟨nonempty, fits⟩ := (refusal?_eq_none_iff image).mp judged
          exact absurd ⟨rfl, List.length_pos_iff.mpr nonempty, fits⟩ refused

end Memory

/-! ### Machines -/

namespace Machine

/-- What a load of an image makes of a machine. -/
structure LoadedWith (before : Machine) (image : List UInt8) (after : Machine) : Prop where
  /-- The block that is written lies inside memory. -/
  inside : before.memory.replaceBlock? 0x200 image = some after.memory
  program : ∀ (offset : Nat) (within : offset < image.length),
    after.memory.read (Address.ofNat (0x200 + offset)) = image[offset]
  around : ∀ address : Address,
    address.val < 0x200 ∨ 0x200 + image.length ≤ address.val →
    after.memory.read address = before.memory.read address
  others : SameBut [.memory, .screen, .pc] after before
  cells : after.screen.grid = before.screen.grid
  filter : after.screen.filter = before.screen.filter
  /-- A program with the mark starts behind its machine code, with the tall screen on. -/
  marked : before.platform = .hybridVip → after.memory.word Memory.programStart = 0x1260 →
    after.pc = 0x2C0 ∧ after.screen.resolution = .tall
  unmarked : ¬(before.platform = .hybridVip ∧ after.memory.word Memory.programStart = 0x1260) →
    after.pc = before.pc ∧ after.screen.resolution = before.screen.resolution

variable (machine : Machine)

theorem load_of_loads {source : ProgramSource} (loads : source.Loads) :
    machine.load source =
      ({ machine with
        memory := machine.memory.writeAll Memory.programStart source.bytes }.prepared,
        .ok source.bytes.length) := by
  rw [load, Memory.load_of_loads machine.memory loads]

theorem load_of_not_loads {source : ProgramSource} (refused : ¬source.Loads) :
    ∃ fault, machine.load source = (machine, .error fault) ∧ source.Refused fault := by
  obtain ⟨fault, failed, reason⟩ := Memory.load_of_not_loads machine.memory refused
  exact ⟨fault, by rw [load, failed], reason⟩

theorem prepared_of_marked (platform : machine.platform = .hybridVip)
    (mark : machine.memory.word Memory.programStart = 0x1260) :
    machine.prepared =
      { machine with screen := machine.screen.setResolution .tall, pc := tallScreenStart } := by
  rw [prepared, platform, mark]
  rfl

theorem prepared_of_unmarked
    (unmarked : ¬(machine.platform = .hybridVip ∧
      machine.memory.word Memory.programStart = 0x1260)) : machine.prepared = machine := by
  rw [prepared, if_neg]
  rw [Bool.and_eq_true, beq_iff_eq, Platform.hasTallScreen, decide_eq_true_iff]
  exact unmarked

theorem prepared_screen :
    machine.prepared.screen.grid = machine.screen.grid ∧
      machine.prepared.screen.filter = machine.screen.filter := by
  rw [prepared]
  split <;> exact ⟨rfl, rfl⟩

theorem loadedWith_of_loads {source : ProgramSource} (loads : source.Loads) :
    machine.LoadedWith source.bytes (machine.load source).1 := by
  have others := machine.load_sameBut source
  have fits : source.bytes.length ≤ 3584 := loads.2.2
  rw [machine.load_of_loads loads] at others ⊢
  let written : Machine :=
    { machine with memory := machine.memory.writeAll Memory.programStart source.bytes }
  have memory : written.prepared.memory = written.memory :=
    written.prepared_sameBut .memory (by decide)
  constructor
  case inside =>
    exact (machine.memory.replaceBlock?_programStart fits).trans (congrArg some memory.symm)
  case program =>
    intro offset within
    rw [memory]
    exact machine.memory.read_writeAll_at Memory.programStart (by omega) within
  case around =>
    intro address outside
    rw [memory]
    apply Memory.read_writeAll_beyond _ (by omega)
    intro offset within same
    have place := congrArg Fin.val same
    change address.val = (512 + offset) % 4096 at place
    omega
  case others => exact others
  case cells => exact written.prepared_screen.1
  case filter => exact written.prepared_screen.2
  case marked =>
    intro platform mark
    rw [memory] at mark
    rw [written.prepared_of_marked platform mark]
    exact ⟨rfl, rfl⟩
  case unmarked =>
    intro unmarked
    rw [memory] at unmarked
    rw [written.prepared_of_unmarked unmarked]
    exact ⟨rfl, rfl⟩

/-- A program is loaded as a whole or not at all. From every state of a machine, a load succeeds
just if the source does not fail and has from 1 to 3584 bytes. It then tells their number, and
nothing has changed but the bytes of the program and, for a program with the mark of the tall
screen, the place where it starts and the resolution. A load that does not succeed tells why and
changes nothing. -/
theorem load_all_or_nothing (source : ProgramSource) :
    ((∃ length, (machine.load source).2 = .ok length) ↔ source.Loads) ∧
      (source.Loads → ∃ after, machine.load source = (after, .ok source.bytes.length) ∧
        machine.LoadedWith source.bytes after) ∧
      (¬source.Loads → ∃ fault, machine.load source = (machine, .error fault) ∧
        source.Refused fault) := by
  have succeeds : source.Loads → ∃ after, machine.load source = (after, .ok source.bytes.length) ∧
      machine.LoadedWith source.bytes after := fun loads =>
    ⟨(machine.load source).1, Prod.ext rfl (by rw [machine.load_of_loads loads]),
      machine.loadedWith_of_loads loads⟩
  refine ⟨⟨?_, ?_⟩, succeeds, fun refused => machine.load_of_not_loads refused⟩
  · rintro ⟨length, loaded⟩
    refine Decidable.byContradiction fun refused => ?_
    obtain ⟨fault, failed, _⟩ := machine.load_of_not_loads refused
    rw [failed] at loaded
    cases loaded
  · intro loads
    obtain ⟨after, loaded, _⟩ := succeeds loads
    exact ⟨_, congrArg Prod.snd loaded⟩

/-- A jump behind two bytes of machine code, which mark a program for the tall screen. -/
def markedSource : ProgramSource := ⟨[0x12, 0x60, 0xE0, 0xD4], none⟩

/-- A source that breaks off behind its first byte. -/
def brokenSource : ProgramSource := ⟨[0x12], some "broken off"⟩

theorem load_all_or_nothing_marked :
    let machine := ofProfile (.ofPlatform "marked" .hybridVip) .none ⟨fun _ => 0, 0⟩
    markedSource.Loads ∧ ¬brokenSource.Loads ∧
      (∃ after, machine.load markedSource = (after, .ok 4) ∧
        machine.LoadedWith markedSource.bytes after ∧
        after.pc = 0x2C0 ∧ after.screen.resolution = .tall) ∧
      machine.load brokenSource = (machine, .error (.device "broken off")) := by
  intro machine
  have loads : markedSource.Loads := by decide
  have refused : ¬brokenSource.Loads := by decide
  refine ⟨loads, refused, ?_, ?_⟩
  · obtain ⟨after, loaded, loadedWith⟩ := (load_all_or_nothing machine markedSource).2.1 loads
    have high : after.memory.read Memory.programStart = 0x12 := loadedWith.program 0 (by decide)
    have low : after.memory.read (Memory.programStart + 1) = 0x60 :=
      loadedWith.program 1 (by decide)
    have mark : after.memory.word Memory.programStart = 0x1260 := by
      rw [Memory.word, high, low]
      decide
    exact ⟨after, loaded, loadedWith, loadedWith.marked rfl mark⟩
  · obtain ⟨fault, failed, reason⟩ := (load_all_or_nothing machine brokenSource).2.2 refused
    change fault = .device "broken off" at reason
    rw [failed, reason]

end Machine
end Chip8
