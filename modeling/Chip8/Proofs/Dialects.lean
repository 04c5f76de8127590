import Chip8.Proofs.Footprint
import Chip8.Proofs.WordRuns
import Mathlib.Data.Fintype.Basic

set_option autoImplicit false

/-!
Where platforms and dialects bear on an instruction. Some words stand behind a gate that only one
kind of platform opens (`Gate.Guards`), and some follow a choice of the dialect (`Choice.Governs`).
No other word lets a step see the platform or the dialect.

`under` is a machine with another platform and another dialect. A step goes on alike under them
unless its word parts the two (`step_under`), and so does a whole run (`actAll_under`).

Main statement: `dialects_confined`.
-/

namespace Chip8

/-- The two groups of instructions that only one kind of platform has. -/
inductive Gate where
  | tallScreen
  | extendedSet
  deriving DecidableEq

namespace Gate

instance : Fintype Gate :=
  ⟨{.tallScreen, .extendedSet}, fun gate => by cases gate <;> decide⟩

/-- The words behind a gate: 0230; and 00Cn, 00FB to 00FF, Fx30, Fx75 and Fx85. -/
def Guards (code : Nat) : Gate → Prop
  | .tallScreen => code = 0x0230
  | .extendedSet =>
      code / 0x10 = 0x00C ∨ (0x00FB ≤ code ∧ code ≤ 0x00FF) ∨
        code / 0x1000 = 0xF ∧
          (code % 0x100 = 0x30 ∨ code % 0x100 = 0x75 ∨ code % 0x100 = 0x85)

instance (code : Nat) : (gate : Gate) → Decidable (gate.Guards code)
  | .tallScreen => inferInstanceAs (Decidable (_ = _))
  | .extendedSet => inferInstanceAs (Decidable (_ ∨ _ ∧ _ ∨ _ ∧ (_ ∨ _ ∨ _)))

end Gate

def Platform.opens (platform : Platform) : Gate → Bool
  | .tallScreen => platform.hasTallScreen
  | .extendedSet => platform.hasExtendedSet

/-- The choices that a dialect makes. -/
inductive Choice where
  | logicClearsFlag
  | shiftReadsVy
  | jumpAddsVx
  | spritesWrap
  | drawAwaitsRefresh
  | indexAdvance
  | indexSetsFlag
  deriving DecidableEq

namespace Choice

instance : Fintype Choice :=
  ⟨{.logicClearsFlag, .shiftReadsVy, .jumpAddsVx, .spritesWrap, .drawAwaitsRefresh,
    .indexAdvance, .indexSetsFlag}, fun choice => by cases choice <;> decide⟩

/-- The words that follow a choice: 8xy1 to 8xy3; 8xy6 and 8xyE; Bnnn; Dxyn, which follows two;
Fx55 and Fx65; and Fx1E. -/
def Governs (code : Nat) : Choice → Prop
  | .logicClearsFlag => code / 0x1000 = 0x8 ∧ 0x1 ≤ code % 0x10 ∧ code % 0x10 ≤ 0x3
  | .shiftReadsVy => code / 0x1000 = 0x8 ∧ (code % 0x10 = 0x6 ∨ code % 0x10 = 0xE)
  | .jumpAddsVx => code / 0x1000 = 0xB
  | .spritesWrap => code / 0x1000 = 0xD
  | .drawAwaitsRefresh => code / 0x1000 = 0xD
  | .indexAdvance => code / 0x1000 = 0xF ∧ (code % 0x100 = 0x55 ∨ code % 0x100 = 0x65)
  | .indexSetsFlag => code / 0x1000 = 0xF ∧ code % 0x100 = 0x1E

instance (code : Nat) : (choice : Choice) → Decidable (choice.Governs code)
  | .logicClearsFlag => inferInstanceAs (Decidable (_ ∧ _ ∧ _))
  | .shiftReadsVy => inferInstanceAs (Decidable (_ ∧ (_ ∨ _)))
  | .jumpAddsVx => inferInstanceAs (Decidable (_ = _))
  | .spritesWrap => inferInstanceAs (Decidable (_ = _))
  | .drawAwaitsRefresh => inferInstanceAs (Decidable (_ = _))
  | .indexAdvance => inferInstanceAs (Decidable (_ ∧ (_ ∨ _)))
  | .indexSetsFlag => inferInstanceAs (Decidable (_ ∧ _))

end Choice

def Dialect.SameOn (left right : Dialect) : Choice → Prop
  | .logicClearsFlag => left.logicClearsFlag = right.logicClearsFlag
  | .shiftReadsVy => left.shiftReadsVy = right.shiftReadsVy
  | .jumpAddsVx => left.jumpAddsVx = right.jumpAddsVx
  | .spritesWrap => left.spritesWrap = right.spritesWrap
  | .drawAwaitsRefresh => left.drawAwaitsRefresh = right.drawAwaitsRefresh
  | .indexAdvance => left.indexAdvance = right.indexAdvance
  | .indexSetsFlag => left.indexSetsFlag = right.indexSetsFlag

instance (left right : Dialect) : (choice : Choice) → Decidable (left.SameOn right choice)
  | .logicClearsFlag => inferInstanceAs (Decidable (left.logicClearsFlag = _))
  | .shiftReadsVy => inferInstanceAs (Decidable (left.shiftReadsVy = _))
  | .jumpAddsVx => inferInstanceAs (Decidable (left.jumpAddsVx = _))
  | .spritesWrap => inferInstanceAs (Decidable (left.spritesWrap = _))
  | .drawAwaitsRefresh => inferInstanceAs (Decidable (left.drawAwaitsRefresh = _))
  | .indexAdvance => inferInstanceAs (Decidable (left.indexAdvance = _))
  | .indexSetsFlag => inferInstanceAs (Decidable (left.indexSetsFlag = _))

/-! ### Words and what they follow -/

namespace Instruction

theorem guards_transfer (x : Register) {byte : UInt8}
    (listed : byte.toNat = 0x30 ∨ byte.toNat = 0x75 ∨ byte.toNat = 0x85) :
    Gate.extendedSet.Guards (byteCode 0xF x byte) := by
  obtain ⟨high, -, -, low⟩ := byteCode_parts 0xF x byte
  refine .inr (.inr ⟨high, ?_⟩)
  rw [low]
  exact listed

/-- A platform that opens the gates before an instruction's word like another one has the
instruction if the other one has it. -/
theorem isOn_congr {left right : Platform} {instruction : Instruction}
    (agree : ∀ gate : Gate, gate.Guards instruction.code → left.opens gate = right.opens gate) :
    instruction.isOn left = instruction.isOn right := by
  cases instruction with
  | tallScreen => exact agree .tallScreen rfl
  | scrollDown rows =>
      have scroll : (0x00C0 + rows.val) / 0x10 = 0x00C := by omega
      exact agree .extendedSet (Or.inl scroll)
  | scrollRight | scrollLeft | exit | lowScreen | highScreen =>
      exact agree .extendedSet (by decide)
  | bigDigit x => exact agree .extendedSet (guards_transfer x (by decide))
  | saveFlags x => exact agree .extendedSet (guards_transfer x (by decide))
  | restoreFlags x => exact agree .extendedSet (guards_transfer x (by decide))
  | _ => rfl

end Instruction

theorem Operation.apply_congr {left right : Dialect} {operation : Operation} {x y : Register}
    (agree : ∀ choice : Choice,
      choice.Governs (Instruction.combine operation x y).code → left.SameOn right choice)
    (vx vy : UInt8) : operation.apply left vx vy = operation.apply right vx vy := by
  obtain ⟨family, -, -, -, last⟩ := Instruction.registersCode_parts 0x8 x y operation.code
  cases operation with
  | or | and | xor =>
      have same : left.logicClearsFlag = right.logicClearsFlag :=
        agree .logicClearsFlag ⟨family, by rw [Instruction.code, last]; decide⟩
      simp only [apply, same]
  | shiftRight | shiftLeft =>
      have same : left.shiftReadsVy = right.shiftReadsVy :=
        agree .shiftReadsVy ⟨family, by rw [Instruction.code, last]; decide⟩
      simp only [apply, same]
  | _ => rfl

/-! ### One step under another platform and dialect -/

namespace Machine

/-- A machine with another platform and another dialect. -/
def under (machine : Machine) (platform : Platform) (dialect : Dialect) : Machine :=
  { machine with platform := platform, dialect := dialect }

theorem sameBut_under (machine : Machine) (platform : Platform) (dialect : Dialect) :
    machine.SameBut [.platform, .dialect] (machine.under platform dialect) :=
  sameBut_of_takeOver rfl

theorem eq_under_of_sameBut {left right : Machine}
    (same : left.SameBut [.platform, .dialect] right) :
    right = left.under right.platform right.dialect := by
  have part (part : Part) (apart : part ∉ [.platform, .dialect]) := same part apart
  exact Machine.mk.injEq .. |>.mpr
    ⟨(part .memory (by decide)).symm, (part .screen (by decide)).symm,
      (part .timers (by decide)).symm, (part .keypad (by decide)).symm, rfl, rfl,
      (part .registers (by decide)).symm, (part .index (by decide)).symm,
      (part .pc (by decide)).symm, (part .stack (by decide)).symm,
      (part .flags (by decide)).symm, (part .tone (by decide)).symm,
      (part .tape (by decide)).symm⟩

variable (machine : Machine) (platform : Platform) (dialect : Dialect)

theorem combine_under {operation : Operation} {x y : Register}
    (agree : ∀ choice : Choice, choice.Governs (Instruction.combine operation x y).code →
      machine.dialect.SameOn dialect choice) :
    (machine.under platform dialect).combine operation x y =
      (machine.combine operation x y).under platform dialect := by
  have applied : operation.apply (machine.under platform dialect).dialect
      ((machine.under platform dialect).register x)
      ((machine.under platform dialect).register y) =
        operation.apply machine.dialect (machine.register x) (machine.register y) :=
    (Operation.apply_congr agree (machine.register x) (machine.register y)).symm
  rw [combine, applied, combine]
  rcases operation.apply machine.dialect (machine.register x) (machine.register y) with
    ⟨result, none | value⟩ <;> rfl

theorem moveIndex_under (x : Register)
    (same : machine.dialect.indexAdvance = dialect.indexAdvance) :
    (machine.under platform dialect).moveIndex x =
      (machine.moveIndex x).under platform dialect := by
  have advance : (machine.under platform dialect).dialect.indexAdvance =
      machine.dialect.indexAdvance := same.symm
  rw [moveIndex, advance, moveIndex]
  cases machine.dialect.indexAdvance <;> rfl

theorem addIndex_under (x : Register)
    (same : machine.dialect.indexSetsFlag = dialect.indexSetsFlag) :
    (machine.under platform dialect).addIndex x =
      (machine.addIndex x).under platform dialect := by
  have tells : (machine.under platform dialect).dialect.indexSetsFlag =
      machine.dialect.indexSetsFlag := same.symm
  simp only [addIndex, tells]
  cases machine.dialect.indexSetsFlag <;> rfl

theorem drawSprite_under (request : DrawRequest)
    (same : machine.dialect.spritesWrap = dialect.spritesWrap) :
    (machine.under platform dialect).drawSprite request =
      (machine.drawSprite request).under platform dialect := by
  have wraps : (machine.under platform dialect).dialect.spritesWrap =
      machine.dialect.spritesWrap := same.symm
  rw [drawSprite, wraps]
  rfl

theorem drawOrWait_under (request : DrawRequest)
    (wraps : machine.dialect.spritesWrap = dialect.spritesWrap)
    (waits : machine.dialect.drawAwaitsRefresh = dialect.drawAwaitsRefresh) :
    (machine.under platform dialect).drawOrWait request =
      ((machine.drawOrWait request).1.under platform dialect, (machine.drawOrWait request).2) := by
  have same : (machine.under platform dialect).dialect.drawAwaitsRefresh =
      machine.dialect.drawAwaitsRefresh := waits.symm
  rw [drawOrWait, same, drawOrWait]
  cases machine.dialect.drawAwaitsRefresh with
  | true => rfl
  | false =>
      have drawn := machine.drawSprite_under platform dialect request wraps
      simp only [Bool.false_eq_true, if_false, drawn]

/-- An instruction does the same under a dialect that makes the choices in the same way that its
word follows. -/
theorem perform_under {instruction : Instruction}
    (agree : ∀ choice : Choice, choice.Governs instruction.code →
      machine.dialect.SameOn dialect choice) :
    (machine.under platform dialect).perform instruction =
      ((machine.perform instruction).1.under platform dialect,
        (machine.perform instruction).2) := by
  cases instruction with
  | combine operation x y =>
      rw [perform, perform, machine.combine_under platform dialect agree]
  | jumpIndexed target =>
      have same : machine.dialect.jumpAddsVx = dialect.jumpAddsVx :=
        agree .jumpAddsVx (Instruction.addressCode_parts 0xB target).1
      have register : (machine.under platform dialect).jumpRegister target =
          machine.jumpRegister target := by
        rw [jumpRegister, jumpRegister, same]
        rfl
      rw [perform, perform, register]
      rfl
  | draw x y rows =>
      have family := (Instruction.registersCode_parts 0xD x y rows).1
      exact machine.drawOrWait_under platform dialect _ (agree .spritesWrap family)
        (agree .drawAwaitsRefresh family)
  | addIndex x =>
      obtain ⟨family, -, -, low⟩ := Instruction.byteCode_parts 0xF x 0x1E
      have same : machine.dialect.indexSetsFlag = dialect.indexSetsFlag :=
        agree .indexSetsFlag ⟨family, low⟩
      rw [perform, perform, machine.addIndex_under platform dialect x same]
  | store x =>
      obtain ⟨family, -, -, low⟩ := Instruction.byteCode_parts 0xF x 0x55
      have same : machine.dialect.indexAdvance = dialect.indexAdvance :=
        agree .indexAdvance ⟨family, Or.inl low⟩
      let written : Machine :=
        { machine with
          memory := machine.memory.writeAll machine.index (machine.registersUpTo x) }
      exact congrArg (·, Outcome.proceed) (written.moveIndex_under platform dialect x same)
  | fetch x =>
      obtain ⟨family, -, -, low⟩ := Instruction.byteCode_parts 0xF x 0x65
      have same : machine.dialect.indexAdvance = dialect.indexAdvance :=
        agree .indexAdvance ⟨family, Or.inr low⟩
      let filled : Machine :=
        { machine with
          registers := replaceFirst machine.registers
            (machine.memory.readAll machine.index (x.val + 1)) }
      exact congrArg (·, Outcome.proceed) (filled.moveIndex_under platform dialect x same)
  | ret =>
      rw [perform, perform, returnFromCall, returnFromCall]
      cases waiting : machine.stack with
      | nil => simp only [under, waiting]
      | cons back rest => simp only [under, waiting]
  | skip test =>
      have same : (machine.under platform dialect).holds test = machine.holds test := by
        cases test <;> rfl
      rw [perform, perform, same]
      cases machine.holds test <;> rfl
  | _ => rfl

/-! ### Steps and runs -/

/-- A machine and one of another platform and dialect may part on a word: it stands behind a gate
that only one of the platforms opens, or follows a choice that the dialects do not make alike. -/
def PartsOn (word : UInt16) : Prop :=
  (∃ gate : Gate, gate.Guards word.toNat ∧ machine.platform.opens gate ≠ platform.opens gate) ∨
    ∃ choice : Choice, choice.Governs word.toNat ∧ ¬ machine.dialect.SameOn dialect choice

instance (word : UInt16) : Decidable (machine.PartsOn platform dialect word) :=
  inferInstanceAs (Decidable (_ ∨ _))

/-- What is asked of the two machines may part them: a step on such a word, or a sprite, which is
drawn for a word Dxyn. -/
def PartsAt : Act → Prop
  | .step => machine.PartsOn platform dialect machine.nextWord
  | .draw _ => ¬ machine.dialect.SameOn dialect .spritesWrap
  | _ => False

instance : (act : Act) → Decidable (machine.PartsAt platform dialect act)
  | .step => inferInstanceAs (Decidable (machine.PartsOn platform dialect _))
  | .draw _ => inferInstanceAs (Decidable (¬ machine.dialect.SameOn dialect .spritesWrap))
  | .takeKey _ => inferInstanceAs (Decidable False)
  | .press _ => inferInstanceAs (Decidable False)
  | .release _ => inferInstanceAs (Decidable False)
  | .countDown => inferInstanceAs (Decidable False)
  | .look => inferInstanceAs (Decidable False)

variable {machine platform dialect}

theorem instruction?_under (agree : ¬ machine.PartsOn platform dialect machine.nextWord) :
    (machine.under platform dialect).instruction? = machine.instruction? := by
  change (Instruction.ofCode? machine.nextWord.toNat).filter (Instruction.isOn platform) =
    (Instruction.ofCode? machine.nextWord.toNat).filter (Instruction.isOn machine.platform)
  cases found : Instruction.ofCode? machine.nextWord.toNat with
  | none => rfl
  | some instruction =>
      have code := Instruction.ofCode?_eq_some_iff.mp found
      have same : instruction.isOn machine.platform = instruction.isOn platform := by
        refine Instruction.isOn_congr fun gate guards => Decidable.of_not_not fun apart => ?_
        rw [code] at guards
        exact agree (Or.inl ⟨gate, guards, apart⟩)
      rw [Option.filter_some, Option.filter_some, same]

theorem step_under (agree : ¬ machine.PartsOn platform dialect machine.nextWord) :
    (machine.under platform dialect).step =
      (machine.step.1.under platform dialect, machine.step.2) := by
  have same := instruction?_under agree
  cases next : machine.instruction? with
  | none =>
      rw [next] at same
      rw [step_of_no_instruction next, step_of_no_instruction same]
      rfl
  | some instruction =>
      rw [next] at same
      have code := (machine.instruction?_eq_some_iff.mp next).1
      have choices : ∀ choice : Choice, choice.Governs instruction.code →
          machine.advance.dialect.SameOn dialect choice := by
        refine fun choice governs => Decidable.of_not_not fun apart => ?_
        rw [code] at governs
        exact agree (Or.inr ⟨choice, governs, apart⟩)
      have performed := machine.advance.perform_under platform dialect choices
      rw [step_of_instruction next, step_of_instruction same]
      exact congrArg (fun ended => (ended.1, Except.ok ended.2)) performed

theorem takeKey?_under (x : Register) :
    (machine.under platform dialect).takeKey? x =
      (machine.takeKey? x).map fun taken => taken.under platform dialect := by
  unfold takeKey?
  rw [Option.map_map]
  rfl

theorem act_under {act : Act} (agree : ¬ machine.PartsAt platform dialect act) :
    (machine.under platform dialect).act act =
      ((machine.act act).1.under platform dialect, (machine.act act).2) := by
  cases act with
  | step =>
      rw [Machine.act, Machine.act, step_under agree]
  | draw request =>
      rw [Machine.act, Machine.act,
        machine.drawSprite_under platform dialect request (Decidable.of_not_not agree)]
  | takeKey register =>
      rw [Machine.act, Machine.act, takeKey?_under]
      cases machine.takeKey? (Register.ofNat register.toNat) <;> rfl
  | press key => rfl
  | release key => rfl
  | countDown => rfl
  | look => rfl

/-- A run goes on alike under another platform and dialect up to the first act that parts them. -/
theorem actAll_under (acts : List Act)
    (agree : ∀ place (inside : place < acts.length),
      ¬ (machine.actAll (acts.take place)).1.PartsAt platform dialect acts[place]) :
    (machine.under platform dialect).actAll acts =
      ((machine.actAll acts).1.under platform dialect, (machine.actAll acts).2) := by
  induction acts generalizing machine with
  | nil => rfl
  | cons act rest ih =>
      have first : (machine.under platform dialect).act act = _ :=
        act_under (agree 0 (Nat.succ_pos _))
      have later : ((machine.act act).1.under platform dialect).actAll rest = _ :=
        ih fun place inside => agree (place + 1) (Nat.succ_lt_succ inside)
      rw [actAll, actAll, first, later]

/-! ### Loading -/

theorem prepared_under (agree : machine.memory.word Memory.programStart = tallScreenMark →
      machine.platform.hasTallScreen = platform.hasTallScreen) :
    (machine.under platform dialect).prepared = machine.prepared.under platform dialect := by
  by_cases marked : machine.memory.word Memory.programStart = tallScreenMark
  · have opened : (machine.under platform dialect).platform.hasTallScreen =
        machine.platform.hasTallScreen := (agree marked).symm
    rw [prepared, opened, prepared]
    cases machine.platform.hasTallScreen <;> simp only [under, marked] <;> rfl
  · simp [prepared, under, marked]

theorem memory_prepared (machine : Machine) : machine.prepared.memory = machine.memory :=
  machine.prepared_sameBut .memory (by decide)

theorem load_under {source : ProgramSource}
    (agree : (machine.load source).1.memory.word Memory.programStart = tallScreenMark →
      machine.platform.hasTallScreen = platform.hasTallScreen) :
    (machine.under platform dialect).load source =
      ((machine.load source).1.under platform dialect, (machine.load source).2) := by
  have shared : (machine.under platform dialect).memory = machine.memory := rfl
  cases loading : machine.memory.load source with
  | mk memory result =>
      simp only [load, shared, loading] at agree ⊢
      cases result with
      | error fault => rfl
      | ok length =>
          let loaded : Machine := { machine with memory := memory }
          simp only [memory_prepared] at agree
          have prepared : (loaded.under platform dialect).prepared =
              loaded.prepared.under platform dialect := prepared_under agree
          exact congrArg (·, Except.ok length) prepared

/-- Platforms and dialects bear only on the words that the tables name. Take two machines that are
the same but for their platform and dialect. A step leaves them so, with the same result, unless
its word stands behind a gate that only one platform opens or follows a choice that the dialects
make differently. So does a run, whatever else happens in it, up to the first such word. Any
program is loaded on both with the same result, and starts with such a pair of machines, unless it
begins with the mark of the tall screen and only one platform has one. -/
theorem dialects_confined :
    (∀ left right : Machine, left.SameBut [.platform, .dialect] right →
      ¬ left.PartsOn right.platform right.dialect left.nextWord →
      left.step.2 = right.step.2 ∧
        left.step.1.SameBut [.platform, .dialect] right.step.1) ∧
    (∀ (left right : Machine) (acts : List Act), left.SameBut [.platform, .dialect] right →
      (∀ place (inside : place < acts.length),
        ¬ (left.actAll (acts.take place)).1.PartsAt right.platform right.dialect acts[place]) →
      (left.actAll acts).2 = (right.actAll acts).2 ∧
        (left.actAll acts).1.SameBut [.platform, .dialect] (right.actAll acts).1) ∧
    ∀ (left right : Profile) (filter : Filter) (tape : Tape) (source : ProgramSource),
      let loadedLeft := (ofProfile left filter tape).load source
      let loadedRight := (ofProfile right filter tape).load source
      loadedLeft.2 = loadedRight.2 ∧
        ((loadedLeft.1.memory.word Memory.programStart = tallScreenMark →
            left.platform.hasTallScreen = right.platform.hasTallScreen) →
          loadedLeft.1.SameBut [.platform, .dialect] loadedRight.1) := by
  refine ⟨?_, ?_, ?_⟩
  · intro left right same agree
    rw [eq_under_of_sameBut same, step_under agree]
    exact ⟨rfl, sameBut_under _ _ _⟩
  · intro left right acts same agree
    rw [eq_under_of_sameBut same, actAll_under acts agree]
    exact ⟨rfl, sameBut_under _ _ _⟩
  · intro left right filter tape source loadedLeft loadedRight
    have swapped : ofProfile right filter tape =
        (ofProfile left filter tape).under right.platform right.dialect := rfl
    refine ⟨?_, ?_⟩
    · exact (result_load (ofProfile left filter tape) source).trans
        (result_load (ofProfile right filter tape) source).symm
    · intro agree
      have loaded : ((ofProfile left filter tape).under right.platform right.dialect).load source =
          (loadedLeft.1.under right.platform right.dialect, loadedLeft.2) := load_under agree
      rw [← swapped] at loaded
      change loadedLeft.1.SameBut _ ((ofProfile right filter tape).load source).1
      rw [loaded]
      exact sameBut_under _ _ _

/-- Three words that an HP-48 and an extended one see alike, the last of which draws a sprite, and
then F555, after which I stands on the last byte for the one and stays for the other. -/
def sharedWords : ProgramSource :=
  ⟨[0x6A, 0x05, 0x8A, 0xA4, 0xDA, 0xA1, 0xF5, 0x55], none⟩

def sharedOn (platform : Platform) : Machine :=
  ((ofProfile (Profile.ofPlatform "shared" platform) .none ⟨fun _ => 0, 0⟩).load sharedWords).1

def sharedActs : List Act :=
  [.step, .press 0xA, .step, .step]

theorem dialects_confined_shared :
    (∀ place (inside : place < sharedActs.length),
      ¬ ((sharedOn .hp48).actAll (sharedActs.take place)).1.PartsAt .superChip
        Platform.superChip.dialect sharedActs[place]) ∧
    (sharedOn .hp48).SameBut [.platform, .dialect] (sharedOn .superChip) ∧
    ((sharedOn .hp48).actAll sharedActs).2 = ((sharedOn .superChip).actAll sharedActs).2 ∧
    ((sharedOn .hp48).actAll sharedActs).1.step.1.index ≠
      ((sharedOn .superChip).actAll sharedActs).1.step.1.index := by
  have facts : (∀ place (inside : place < sharedActs.length),
        ¬ ((sharedOn .hp48).actAll (sharedActs.take place)).1.PartsAt .superChip
          Platform.superChip.dialect sharedActs[place]) ∧
      ((sharedOn .hp48).actAll sharedActs).1.step.1.index ≠
        ((sharedOn .superChip).actAll sharedActs).1.step.1.index := by
    decide +kernel
  have alike : (sharedOn .hp48).SameBut [.platform, .dialect] (sharedOn .superChip) :=
    (dialects_confined.2.2 _ _ .none ⟨fun _ => 0, 0⟩ sharedWords).2 (fun _ => rfl)
  exact ⟨facts.1, alike, (dialects_confined.2.1 _ _ sharedActs alike facts.1).1, facts.2⟩

end Machine
end Chip8
