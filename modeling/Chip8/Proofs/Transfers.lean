import Chip8.Proofs.Effects

set_option autoImplicit false

/-!
Registers put away and taken back. Fx55 and Fx65 carry V0 to Vx between the registers and memory,
and Fx75 and Fx85 between the registers and the user flags.

A flag holds what the last Fx75 that reached it has put there (`Unfolds.flag_eq`, by induction over
the moments of a run).

Main statement: `transfers_inverse`.
-/

namespace Chip8
namespace Machine

/-- Where a transfer of V0 to Vx leaves I. -/
def indexBehind (machine : Machine) (x : Register) : Address :=
  match machine.dialect.indexAdvance with
  | .pastLast => Address.ofNat (machine.index.val + x.val + 1)
  | .onLast => Address.ofNat (machine.index.val + x.val)
  | .stay => machine.index

/-- A machine and one that has put V0 to Vx at I. -/
structure Stored (machine later : Machine) (x : Register) : Prop where
  bytes : ∀ r ≤ x,
    later.memory.read (Address.ofNat (machine.index.val + r.val)) = machine.register r
  others : ∀ address, (∀ r ≤ x, address ≠ Address.ofNat (machine.index.val + r.val)) →
    later.memory.read address = machine.memory.read address
  index : later.index = machine.indexBehind x

/-- A machine and one that has filled V0 to Vx with values. -/
structure Filled (machine later : Machine) (x : Register) (values : Register → UInt8) : Prop where
  within : ∀ r ≤ x, later.register r = values r
  beyond : ∀ r, x < r → later.register r = machine.register r

/-! ### Single transfers -/

theorem instruction?_of_isTransfer {machine : Machine} (low : UInt8)
    (other : Register → Instruction) (codes : ∀ x, (other x).code = byteCode 0xF x low)
    (present : ∀ x, (other x).isOn machine.platform = true)
    (transfer : IsTransfer machine.nextCode low.toNat) :
    machine.instruction? = some (other machine.nextX) := by
  refine machine.instruction?_eq_some_iff.mpr ⟨?_, present _⟩
  rw [codes, toNat_nextWord]
  exact Instruction.byteCode_of_low transfer.1 transfer.2

variable (machine : Machine) (x : Register)

theorem index_moveIndex : (machine.moveIndex x).index = machine.indexBehind x := by
  unfold moveIndex indexBehind
  cases machine.dialect.indexAdvance with
  | pastLast =>
      apply Fin.ext
      dsimp only
      rw [Fin.val_add, Address.val_ofNat, Address.val_ofNat]
      omega
  | onLast =>
      apply Fin.ext
      dsimp only
      rw [Fin.val_add, Address.val_ofNat, Address.val_ofNat]
      omega
  | stay => rfl

theorem indexBehind_congr {left right : Machine} (dialect : left.dialect = right.dialect)
    (index : left.index = right.index) : left.indexBehind x = right.indexBehind x := by
  unfold indexBehind
  rw [dialect, index]

theorem getElem?_registersUpTo {r : Register} (within : r ≤ x) :
    (machine.registersUpTo x)[r.val]? = some (machine.register r) := by
  have inside : r.val < x.val + 1 := Nat.lt_succ_of_le within
  rw [registersUpTo, List.getElem?_take_of_lt inside]
  simp [register]

theorem stored_storeRegisters : machine.Stored (machine.storeRegisters x) x := by
  have few : (machine.registersUpTo x).length ≤ 4096 := by
    rw [length_registersUpTo]
    omega
  refine ⟨?_, ?_, ?_⟩
  · intro r within
    have inside : r.val < (machine.registersUpTo x).length := by
      rw [length_registersUpTo]
      exact Nat.lt_succ_of_le within
    rw [memory_storeRegisters, Memory.read_writeAll_at _ _ few inside]
    exact Option.some_inj.mp
      ((List.getElem?_eq_getElem inside).symm.trans (machine.getElem?_registersUpTo x within))
  · intro address apart
    rw [memory_storeRegisters]
    apply Memory.read_writeAll_beyond _ few
    intro offset inside
    rw [length_registersUpTo] at inside
    exact apart ⟨offset, by omega⟩ (Fin.le_def.mpr (Nat.le_of_lt_succ inside))
  · rw [storeRegisters, index_moveIndex]
    exact indexBehind_congr x rfl rfl

theorem filled_replaceFirst {later : Machine} (values : List UInt8) {value : Register → UInt8}
    (many : values.length = x.val + 1)
    (replaced : later.registers = replaceFirst machine.registers values)
    (same : ∀ r ≤ x, values[r.val]? = some (value r)) : machine.Filled later x value := by
  constructor
  · intro r within
    rw [register_eq, replaced, get_replaceFirst, same r within, Option.getD_some]
  · intro r beyond
    rw [register_eq, register_eq, replaced]
    apply get_replaceFirst_beyond
    rw [many]
    exact beyond

theorem filled_fetchRegisters :
    machine.Filled (machine.fetchRegisters x) x
      fun r => machine.memory.read (Address.ofNat (machine.index.val + r.val)) := by
  refine machine.filled_replaceFirst x (machine.memory.readAll machine.index (x.val + 1)) ?_
    (registers_moveIndex _ x) ?_
  · rw [Memory.readAll, List.length_map, List.length_range]
  · intro r within
    have inside : r.val < x.val + 1 := Nat.lt_succ_of_le within
    have place : machine.index + Address.ofNat r.val =
        Address.ofNat (machine.index.val + r.val) := by
      apply Fin.ext
      rw [Fin.val_add, Address.val_ofNat, Address.val_ofNat]
      omega
    rw [Memory.readAll, List.getElem?_map, List.getElem?_range inside, Option.map_some, place]

theorem filled_restoreFlags :
    machine.Filled (machine.restoreFlags x) x fun r => machine.flag r := by
  refine machine.filled_replaceFirst x (machine.flags.toList.take (x.val + 1)) ?_ rfl ?_
  · rw [List.length_take, Vector.length_toList]
    omega
  · intro r within
    have inside : r.val < x.val + 1 := Nat.lt_succ_of_le within
    rw [List.getElem?_take_of_lt inside, Vector.getElem?_toList]
    exact Vector.getElem?_eq_getElem r.isLt

/-! ### To memory and back -/

variable {machine x}

theorem step_store (stores : IsTransfer machine.nextCode 0x55) :
    machine.step = (machine.advance.storeRegisters machine.nextX, .ok .proceed) :=
  step_of_instruction (instruction?_of_isTransfer 0x55 .store (fun _ => rfl) (fun _ => rfl) stores)

theorem step_fetch (fetches : IsTransfer machine.nextCode 0x65) :
    machine.step = (machine.advance.fetchRegisters machine.nextX, .ok .proceed) :=
  step_of_instruction (instruction?_of_isTransfer 0x65 .fetch (fun _ => rfl) (fun _ => rfl) fetches)

theorem stored_step (stores : IsTransfer machine.nextCode 0x55) :
    machine.Stored machine.step.1 machine.nextX := by
  rw [step_store stores]
  obtain ⟨bytes, others, index⟩ := machine.advance.stored_storeRegisters machine.nextX
  exact ⟨bytes, others, index⟩

/-- A word of which a store has written over no byte is the one that was there. -/
theorem nextCode_of_untargeted {other : Machine}
    (sameMemory : other.memory = machine.step.1.memory) (high : ¬ machine.Targets other.pc)
    (low : ¬ machine.Targets (Address.ofNat (other.pc.val + 1))) :
    other.nextCode = { other with memory := machine.memory }.nextCode := by
  unfold nextCode
  rw [sameMemory, read_step high, read_step low]

/-- A machine and one that has taken V0 to Vx from memory. -/
structure Fetched (machine later : Machine) (x : Register) (values : Register → UInt8) :
    Prop where
  registers : machine.Filled later x values
  memory : later.memory = machine.memory
  index : later.index = machine.indexBehind x

theorem fetched_step (fetches : IsTransfer machine.nextCode 0x65) :
    machine.Fetched machine.step.1 machine.nextX
      fun r => machine.memory.read (Address.ofNat (machine.index.val + r.val)) := by
  rw [step_fetch fetches]
  obtain ⟨within, beyond⟩ := machine.advance.filled_fetchRegisters machine.nextX
  refine ⟨⟨within, beyond⟩, ?_, ?_⟩
  · rw [fetchRegisters, moveIndex_eq]
    rfl
  · rw [fetchRegisters, index_moveIndex]
    exact indexBehind_congr _ rfl rfl

theorem fetched_of_stored {other : Machine} (stores : IsTransfer machine.nextCode 0x55)
    (sameMemory : other.memory = machine.step.1.memory) (sameIndex : other.index = machine.index)
    (fetches : IsTransfer other.nextCode 0x65) (sameX : other.nextX = machine.nextX) :
    other.Fetched other.step.1 machine.nextX machine.register := by
  obtain ⟨⟨within, beyond⟩, memory, index⟩ := fetched_step fetches
  rw [sameX] at within beyond index
  refine ⟨⟨?_, beyond⟩, memory, index⟩
  intro r inside
  rw [within r inside, sameMemory, sameIndex]
  exact (stored_step stores).bytes r inside

/-! ### To the flags and back -/

theorem step_saveFlags (superChip : machine.platform = .superChip)
    (saves : IsTransfer machine.nextCode 0x75) :
    machine.step = (machine.advance.saveFlags machine.nextX, .ok .proceed) := by
  have present (x : Register) : (Instruction.saveFlags x).isOn machine.platform = true := by
    rw [superChip]
    rfl
  exact step_of_instruction
    (instruction?_of_isTransfer 0x75 .saveFlags (fun _ => rfl) present saves)

theorem step_restoreFlags (superChip : machine.platform = .superChip)
    (restores : IsTransfer machine.nextCode 0x85) :
    machine.step = (machine.advance.restoreFlags machine.nextX, .ok .proceed) := by
  have present (x : Register) : (Instruction.restoreFlags x).isOn machine.platform = true := by
    rw [superChip]
    rfl
  exact step_of_instruction
    (instruction?_of_isTransfer 0x85 .restoreFlags (fun _ => rfl) present restores)

theorem filled_step {values : Register → UInt8} (superChip : machine.platform = .superChip)
    (restores : IsTransfer machine.nextCode 0x85)
    (saved : ∀ r : Register, machine.flag r = values r) :
    machine.step.2 = .ok .proceed ∧ machine.Filled machine.step.1 machine.nextX values := by
  rw [step_restoreFlags superChip restores]
  obtain ⟨within, beyond⟩ := machine.advance.filled_restoreFlags machine.nextX
  refine ⟨rfl, ?_, beyond⟩
  intro r inside
  exact (within r inside).trans (saved r)

theorem flag_step_saved {r : Register} (superChip : machine.platform = .superChip)
    (saves : IsTransfer machine.nextCode 0x75) (within : r ≤ machine.nextX) :
    machine.step.1.flag r = machine.register r := by
  rw [step_saveFlags superChip saves]
  refine (get_replaceFirst machine.flags _ r).trans ?_
  rw [getElem?_registersUpTo _ _ within]
  rfl

theorem flag_step_kept {r : Register}
    (kept : ¬ (IsTransfer machine.nextCode 0x75 ∧ r ≤ machine.nextX)) :
    machine.step.1.flag r = machine.flag r := by
  cases next : machine.instruction? with
  | none => rw [step_of_no_instruction next]
  | some instruction =>
      rw [step_of_instruction next]
      unfold nextX at kept
      rw [nextCode_of_instruction? next] at kept
      exact flag_perform kept

end Machine

namespace Moment

/-- An instruction that saves a register. -/
def saves (r : Register) (moment : Moment) : Bool :=
  moment.isStep &&
    decide (IsTransfer moment.found.machine.nextCode 0x75 ∧ r ≤ moment.found.machine.nextX)

/-- The value of a register when it was saved last, or zero if it never was. -/
def lastSaved (moments : List Moment) (r : Register) : UInt8 :=
  ((moments.reverse.find? (saves r)).map fun moment => moment.found.machine.register r).getD 0

variable {moment : Moment}

/-- A moment saves a register into its flag or leaves the flag alone. -/
theorem flag_after {r : Register} (superChip : moment.found.machine.platform = .superChip) :
    moment.after.machine.flag r =
      if moment.saves r then moment.found.machine.register r
      else moment.found.machine.flag r := by
  cases isStep : moment.isStep with
  | false =>
      have same : moment.after.machine.flags = moment.found.machine.flags :=
        sameBut_after_of_noStep isStep .flags (by decide)
      rw [Machine.flag_congr same, saves, isStep]
      rfl
  | true =>
      have same : moment.after.machine.flags = moment.found.machine.step.1.flags :=
        sameIn_step_after isStep .flags (by decide)
      rw [Machine.flag_congr same, saves, isStep, Bool.true_and]
      by_cases reached :
          IsTransfer moment.found.machine.nextCode 0x75 ∧ r ≤ moment.found.machine.nextX
      · rw [if_pos (decide_eq_true reached)]
        exact Machine.flag_step_saved superChip reached.1 reached.2
      · rw [decide_eq_false reached]
        exact Machine.flag_step_kept reached

theorem flag_eq_of_cons {r : Register} (moment : Moment) (rest : List Moment) (before : UInt8) :
    ((rest.reverse.find? (saves r)).map fun moment => moment.found.machine.register r).getD
        (if moment.saves r then moment.found.machine.register r else before) =
      (((moment :: rest).reverse.find? (saves r)).map fun moment =>
        moment.found.machine.register r).getD before := by
  rw [List.reverse_cons, List.find?_append]
  cases rest.reverse.find? (saves r) with
  | some later => rfl
  | none =>
      cases saved : moment.saves r with
      | true => simp [saved]
      | false => simp [saved]

end Moment

/-- A flag is what was saved there last, or what it was at first. -/
theorem Unfolds.flag_eq {run last : Run} {moments : List Moment}
    (unfolds : Unfolds run moments last) (superChip : run.machine.platform = .superChip)
    (r : Register) :
    last.machine.flag r =
      ((moments.reverse.find? (Moment.saves r)).map fun moment =>
        moment.found.machine.register r).getD (run.machine.flag r) := by
  induction unfolds with
  | nil run => rfl
  | cons run moment rest last found follows ih =>
      subst found
      rw [ih ((Moment.platform_after moment).trans superChip), Moment.flag_after superChip]
      exact Moment.flag_eq_of_cons moment rest _

theorem Unfolds.platform_eq {run last : Run} {moments : List Moment}
    (unfolds : Unfolds run moments last) : last.machine.platform = run.machine.platform := by
  induction unfolds with
  | nil run => rfl
  | cons run moment rest last found follows ih =>
      subst found
      exact ih.trans (Moment.platform_after moment)

namespace Course

variable {rate : UInt32} {profile : Profile} {filter : Filter} {tape : Tape}
  {source : ProgramSource}

/-- At any point of a run that starts with a load, the flags hold what was saved last. -/
theorem lastSaved_of_unfolds {last : Run} {moments : List Moment}
    (superChip : profile.platform = .superChip)
    (unfolds : Unfolds (boot rate profile filter tape source).run moments last) :
    last.machine.platform = .superChip ∧
      ∀ r : Register, last.machine.flag r = Moment.lastSaved moments r := by
  have loaded := (Machine.ofProfile profile filter tape).load_sameBut source
  have platform : (boot rate profile filter tape source).machine.platform = .superChip :=
    Eq.trans (loaded .platform (by decide)) superChip
  have flags : (boot rate profile filter tape source).machine.flags = Vector.replicate 16 0 :=
    loaded .flags (by decide)
  refine ⟨unfolds.platform_eq.trans platform, ?_⟩
  intro r
  have zero : (boot rate profile filter tape source).run.machine.flag r = 0 := by
    change (boot rate profile filter tape source).machine.flags.get r = 0
    rw [flags]
    exact Vector.getElem_replicate r.isLt
  rw [unfolds.flag_eq platform r, zero]
  rfl

end Course

/-- What Fx55 puts into memory, Fx65 takes back: from that memory, with I where it was, on any
machine. -/
structure Machine.PutAway (machine : Machine) : Prop where
  proceeds : machine.step.2 = .ok .proceed
  stored : machine.Stored machine.step.1 machine.nextX
  /-- A word of which no byte was written over is still there. -/
  words : ∀ other : Machine, other.memory = machine.step.1.memory →
    ¬ machine.Targets other.pc → ¬ machine.Targets (Address.ofNat (other.pc.val + 1)) →
    other.nextCode = { other with memory := machine.memory }.nextCode
  fetched : ∀ other : Machine, other.memory = machine.step.1.memory →
    other.index = machine.index → IsTransfer other.nextCode 0x65 → other.nextX = machine.nextX →
    other.step.2 = .ok .proceed ∧
      other.Fetched other.step.1 machine.nextX machine.register

/-- Fx85 takes from the flags what Fx75 has put there last: where a run carries it out, and where a
run has come to. -/
structure Course.KeepsFlags (course : Course) (events : List Event) : Prop where
  within : ∀ earlier moment behind, course.moments events = earlier ++ moment :: behind →
    moment.isStep = true → IsTransfer moment.found.machine.nextCode 0x85 →
    moment.found.machine.Filled moment.after.machine moment.found.machine.nextX
      (Moment.lastSaved earlier)
  atEnd : let last := (course.follow events).machine
    IsTransfer last.nextCode 0x85 →
    last.step.2 = .ok .proceed ∧
      last.Filled last.step.1 last.nextX (Moment.lastSaved (course.moments events))

theorem Machine.putAway_of_store {machine : Machine} (stores : IsTransfer machine.nextCode 0x55) :
    machine.PutAway := by
  refine ⟨?_, stored_step stores, ?_, ?_⟩
  · rw [step_store stores]
  · intro other sameMemory high low
    exact nextCode_of_untargeted sameMemory high low
  · intro other sameMemory sameIndex fetches sameX
    refine ⟨?_, fetched_of_stored stores sameMemory sameIndex fetches sameX⟩
    rw [step_fetch fetches]

theorem Course.keepsFlags {rate : UInt32} {profile : Profile} {filter : Filter} {tape : Tape}
    {source : ProgramSource} (superChip : profile.platform = .superChip) (events : List Event) :
    (boot rate profile filter tape source).KeepsFlags events := by
  constructor
  · intro earlier moment behind split isStep restores
    have unfolds := (boot rate profile filter tape source).unfolds events
    rw [split] at unfolds
    obtain ⟨platform, saved⟩ := lastSaved_of_unfolds superChip unfolds.cut.1
    obtain ⟨-, within, beyond⟩ := Machine.filled_step platform restores saved
    have same : moment.after.machine.registers = moment.found.machine.step.1.registers :=
      Moment.sameIn_step_after isStep .registers (by decide)
    have sameRegister (r : Register) :
        moment.after.machine.register r = moment.found.machine.step.1.register r := by
      rw [Machine.register, same, Machine.register]
    refine ⟨?_, ?_⟩
    · intro r inside
      exact (sameRegister r).trans (within r inside)
    · intro r outside
      exact (sameRegister r).trans (beyond r outside)
  · intro last restores
    obtain ⟨platform, saved⟩ := lastSaved_of_unfolds superChip
      ((boot rate profile filter tape source).unfolds events)
    exact Machine.filled_step platform restores saved

/-- What a program puts away it gets back: from memory with Fx55 and Fx65, whatever the dialect
does with I and also around the end of memory, and from the user flags with Fx75 and Fx85 at any
point of a run. -/
theorem transfers_inverse :
    (∀ machine : Machine, IsTransfer machine.nextCode 0x55 → machine.PutAway) ∧
      ∀ (rate : UInt32) (profile : Profile) (filter : Filter) (tape : Tape)
        (source : ProgramSource) (events : List Event), profile.platform = .superChip →
        (Course.boot rate profile filter tape source).KeepsFlags events :=
  ⟨fun _ stores => Machine.putAway_of_store stores,
    fun _ _ _ _ _ events superChip => Course.keepsFlags superChip events⟩

/-- The next word puts V0 to V3 on the last two bytes of memory and the first two, and the one
behind it takes them back. -/
def aroundEnd : Machine :=
  { ((Machine.ofProfile (.ofPlatform "around the end" .hp48) .none ⟨fun _ => 0, 0⟩).load
      ⟨[0xF3, 0x55, 0xF3, 0x65], none⟩).1 with
    registers := Vector.ofFn fun r => UInt8.ofNat (r.val + 1)
    index := 0xFFE }

/-- A machine with empty registers and I near the end of memory. -/
def Machine.emptied (machine : Machine) : Machine :=
  { machine with registers := Vector.replicate 16 0, index := 0xFFE }

/-- It saves V0 and V1, then V0 alone, and comes to a word that takes both back. -/
def savingTwice : Course :=
  .boot 420 (.ofPlatform "saving twice" .superChip) .none ⟨fun _ => 0, 0⟩
    ⟨[0x60, 0x07, 0x61, 0x08, 0xF1, 0x75, 0x60, 0x09, 0xF0, 0x75, 0x60, 0x00, 0x61, 0x00,
      0xF1, 0x85], none⟩

theorem transfers_inverse_aroundEnd :
    (aroundEnd.step.1.memory.read 0x001 = 4 ∧ aroundEnd.step.1.index = 0x001) ∧
      (aroundEnd.step.1.emptied.step.1.register 3 = 4 ∧
        aroundEnd.step.1.emptied.step.1.register 4 = 0) ∧
        (savingTwice.follow [.elapse refreshInterval]).machine.step.1.register 0 = 9 ∧
          (savingTwice.follow [.elapse refreshInterval]).machine.step.1.register 1 = 8 := by
  obtain ⟨putAway, keepsFlags⟩ := transfers_inverse
  have words : IsTransfer aroundEnd.nextCode 0x55 ∧ aroundEnd.nextX = 3 ∧
      aroundEnd.indexBehind 3 = 0x001 ∧ aroundEnd.register 3 = 4 ∧
        IsTransfer aroundEnd.step.1.emptied.nextCode 0x65 ∧ aroundEnd.step.1.emptied.nextX = 3 := by
    decide +kernel
  obtain ⟨stores, x, behind, four, fetches, sameX⟩ := words
  obtain ⟨-, stored, -, fetched⟩ := putAway aroundEnd stores
  have sameMemory (machine : Machine) : machine.emptied.memory = machine.memory := rfl
  obtain ⟨-, registers, -, -⟩ :=
    fetched aroundEnd.step.1.emptied (sameMemory _) rfl fetches (sameX.trans x.symm)
  rw [x] at stored registers
  have keeps : savingTwice.KeepsFlags [.elapse refreshInterval] := keepsFlags 420 _ _ _ _ _ rfl
  have saved :
      let last := (savingTwice.follow [.elapse refreshInterval]).machine
      let moments := savingTwice.moments [.elapse refreshInterval]
      IsTransfer last.nextCode 0x85 ∧ last.nextX = 1 ∧ Moment.lastSaved moments 0 = 9 ∧
        Moment.lastSaved moments 1 = 8 := by
    decide +kernel
  obtain ⟨restores, one, nine, eight⟩ := saved
  obtain ⟨-, filled⟩ := keeps.atEnd restores
  rw [one] at filled
  refine ⟨⟨?_, stored.index.trans behind⟩, ⟨?_, registers.beyond 4 (by decide)⟩, ?_, ?_⟩
  · exact (stored.bytes 3 (by decide)).trans four
  · exact (registers.within 3 (by decide)).trans four
  · exact (filled.within 0 (by decide)).trans nine
  · exact (filled.within 1 (by decide)).trans eight

end Chip8
