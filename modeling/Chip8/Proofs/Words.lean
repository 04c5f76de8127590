import Chip8.Instruction.Code
import Chip8.Machine.Execute

set_option autoImplicit false

/-!
The machine as a computer holds it: words of sixteen bits, sizes of sixty-four bits, and arrays.
Nothing here wraps or stops at an edge by its type. A sum that leaves its word and a place outside
its array have no result, and neither has anything that would need them.

`Machine.words` is a machine held in this way. The lemmas of this module say that its bytes and
registers are read and written like those of the machine, and that nothing fails.
-/

namespace Chip8

/-! ### Sums and places that can fail -/

/-- The first size that sixty-four bits cannot hold. -/
def sizeLimit : Nat := 18446744073709551616

def addWord? (left right : UInt16) : Option UInt16 :=
  if left.toNat + right.toNat < 65536 then some (left + right) else none

def mulWord? (left right : UInt16) : Option UInt16 :=
  if left.toNat * right.toNat < 65536 then some (left * right) else none

def shiftRightWord? (word : UInt16) (places : Nat) : Option UInt16 :=
  if places < 16 then some (word >>> UInt16.ofNat places) else none

def addSize? (left right : Nat) : Option Nat :=
  if left + right < sizeLimit then some (left + right) else none

def subSize? (left right : Nat) : Option Nat :=
  if right ≤ left then some (left - right) else none

def mulSize? (left right : Nat) : Option Nat :=
  if left * right < sizeLimit then some (left * right) else none

def replace? {α : Type} (array : Array α) (place : Nat) (value : α) : Option (Array α) :=
  if inside : place < array.size then some (array.set place value) else none

theorem some_bind {α β : Type} (value : α) (next : α → Option β) :
    (some value >>= next) = next value := rfl

theorem addWord?_eq {left right : UInt16} (fits : left.toNat + right.toNat < 65536) :
    addWord? left right = some (left + right) :=
  if_pos fits

theorem mulWord?_eq {left right : UInt16} (fits : left.toNat * right.toNat < 65536) :
    mulWord? left right = some (left * right) :=
  if_pos fits

theorem shiftRightWord?_eq (word : UInt16) {places : Nat} (fits : places < 16) :
    shiftRightWord? word places = some (word >>> UInt16.ofNat places) :=
  if_pos fits

theorem addSize?_eq {left right : Nat} (fits : left + right < sizeLimit) :
    addSize? left right = some (left + right) :=
  if_pos fits

theorem subSize?_eq {left right : Nat} (fits : right ≤ left) :
    subSize? left right = some (left - right) :=
  if_pos fits

theorem mulSize?_eq {left right : Nat} (fits : left * right < sizeLimit) :
    mulSize? left right = some (left * right) :=
  if_pos fits

theorem replace?_toArray {α : Type} {size : Nat} (vector : Vector α size) {place : Nat}
    (inside : place < size) (value : α) :
    replace? vector.toArray place value = some (vector.set place value).toArray := by
  have insideArray : place < vector.toArray.size := by
    rw [vector.size_toArray]
    exact inside
  rw [replace?, dif_pos insideArray, Vector.toArray_set]

/-! ### Addresses as words -/

def addressMask : UInt16 := 0x0FFF

def Address.word (address : Address) : UInt16 :=
  UInt16.ofNat address.val

@[simp] theorem Address.toNat_word (address : Address) : address.word.toNat = address.val := by
  have inside := address.isLt
  rw [Address.word, UInt16.toNat_ofNat', Nat.mod_eq_of_lt (by omega)]

theorem toNat_mask (word : UInt16) : (word &&& addressMask).toNat = word.toNat % 4096 := by
  rw [UInt16.toNat_and]
  exact Nat.and_two_pow_sub_one_eq_mod word.toNat 12

theorem mask_eq (word : UInt16) : word &&& addressMask = (Address.ofNat word.toNat).word := by
  apply UInt16.toNat_inj.mp
  rw [toNat_mask, Address.toNat_word, Address.val_ofNat]

theorem addAddress?_eq (address : Address) {distance : UInt16} (small : distance.toNat < 61441) :
    addWord? address.word distance = some (address.word + distance) := by
  have inside := address.isLt
  apply addWord?_eq
  rw [Address.toNat_word]
  omega

theorem ofNat_addAddress (address : Address) (distance : UInt16) :
    Address.ofNat (address.word + distance).toNat =
      address + Address.ofNat distance.toNat := by
  apply Fin.ext
  rw [Fin.val_add, Address.val_ofNat, Address.val_ofNat, UInt16.toNat_add, Address.toNat_word]
  omega

theorem mask_addAddress (address : Address) (distance : UInt16) :
    (address.word + distance) &&& addressMask =
      (address + Address.ofNat distance.toNat).word := by
  rw [mask_eq, ofNat_addAddress]

/-! ### The machine in words -/

structure Words where
  bytes : Array UInt8
  cells : Array Pixel
  resolution : Resolution
  filter : Filter
  timers : Timers
  keypad : Keypad
  platform : Platform
  dialect : Dialect
  registers : Array UInt8
  index : UInt16
  pc : UInt16
  stack : List UInt16
  flags : Array UInt8
  tone : Option Tone
  tape : Tape

def Machine.words (machine : Machine) : Words where
  bytes := machine.memory.bytes.toArray
  cells := machine.screen.grid.cells.toArray
  resolution := machine.screen.resolution
  filter := machine.screen.filter
  timers := machine.timers
  keypad := machine.keypad
  platform := machine.platform
  dialect := machine.dialect
  registers := machine.registers.toArray
  index := machine.index.word
  pc := machine.pc.word
  stack := machine.stack.map Address.word
  flags := machine.flags.toArray
  tone := machine.tone
  tape := machine.tape

namespace Words

/-- Addresses stay below 4096, and memory and screen keep their sizes. -/
structure InRange (words : Words) : Prop where
  pc : words.pc.toNat ≤ 0xFFF
  index : words.index.toNat ≤ 0xFFF
  stack : ∀ back ∈ words.stack, back.toNat ≤ 0xFFF
  bytes : words.bytes.size = 4096
  cells : words.cells.size = 8192

theorem inRange_words (machine : Machine) : machine.words.InRange where
  pc := by
    have inside := machine.pc.isLt
    change machine.pc.word.toNat ≤ 0xFFF
    rw [Address.toNat_word]
    omega
  index := by
    have inside := machine.index.isLt
    change machine.index.word.toNat ≤ 0xFFF
    rw [Address.toNat_word]
    omega
  stack := by
    intro back member
    obtain ⟨address, _, rfl⟩ := List.mem_map.mp member
    have inside := address.isLt
    rw [Address.toNat_word]
    omega
  bytes := machine.memory.bytes.size_toArray
  cells := machine.screen.grid.cells.size_toArray

/-- The byte at a word's address, out of a slice of one byte. -/
def readByte? (words : Words) (address : UInt16) : Option UInt8 := do
  let start := (address &&& addressMask).toNat
  let stop ← addSize? start 1
  if stop ≤ words.bytes.size then words.bytes[start]? else none

def writeByte? (words : Words) (address : UInt16) (value : UInt8) : Option Words := do
  let start := (address &&& addressMask).toNat
  let stop ← addSize? start 1
  if stop ≤ words.bytes.size then
    let bytes ← replace? words.bytes start value
    some { words with bytes := bytes }
  else none

/-- Two bytes, the high one first. The second address wraps as a word. -/
def readWord? (words : Words) (address : UInt16) : Option UInt16 := do
  let high ← words.readByte? address
  let low ← words.readByte? (address + 1)
  some (high.toUInt16 <<< 8 ||| low.toUInt16)

def register? (words : Words) (x : UInt8) : Option UInt8 :=
  words.registers[(x &&& 0x0F).toNat]?

def setRegister? (words : Words) (x value : UInt8) : Option Words := do
  let registers ← replace? words.registers (x &&& 0x0F).toNat value
  some { words with registers := registers }

end Words

/-! ### Bytes and registers -/

theorem getElem?_toArray {α : Type} {size : Nat} (vector : Vector α size) {place : Nat}
    (inside : place < size) : vector.toArray[place]? = some vector[place] := by
  rw [Vector.getElem?_toArray, Vector.getElem?_eq_getElem inside]

private theorem slice_fits (address : UInt16) :
    addSize? (address &&& addressMask).toNat 1 = some ((address &&& addressMask).toNat + 1) ∧
      (address &&& addressMask).toNat + 1 ≤ 4096 := by
  have start := toNat_mask address
  constructor
  · apply addSize?_eq
    unfold sizeLimit
    omega
  · omega

section Access

variable (machine : Machine)

theorem readByte?_words (address : UInt16) :
    machine.words.readByte? address =
      some (machine.memory.read (Address.ofNat address.toNat)) := by
  obtain ⟨stop, fits⟩ := slice_fits address
  have size : machine.words.bytes.size = 4096 := machine.memory.bytes.size_toArray
  rw [Words.readByte?]
  simp only [stop, some_bind, size, if_pos fits]
  rw [toNat_mask]
  exact getElem?_toArray machine.memory.bytes (Nat.mod_lt _ (by decide))

theorem writeByte?_words (address : UInt16) (value : UInt8) :
    machine.words.writeByte? address value =
      some { machine with
        memory := machine.memory.write (Address.ofNat address.toNat) value }.words := by
  obtain ⟨stop, fits⟩ := slice_fits address
  have size : machine.words.bytes.size = 4096 := machine.memory.bytes.size_toArray
  have replaced :=
    replace?_toArray machine.memory.bytes (Nat.mod_lt address.toNat (by decide)) value
  rw [Words.writeByte?]
  simp only [stop, some_bind, size, if_pos fits]
  rw [toNat_mask]
  change (replace? machine.memory.bytes.toArray (address.toNat % 4096) value >>= _) = _
  rw [replaced]
  rfl

theorem readWord?_words (address : UInt16) :
    machine.words.readWord? address =
      some (machine.memory.word (Address.ofNat address.toNat)) := by
  have next : Address.ofNat (address + 1).toNat = Address.ofNat address.toNat + 1 := by
    apply Fin.ext
    rw [Fin.val_add, Address.val_ofNat, Address.val_ofNat, UInt16.toNat_add]
    change (address.toNat + 1) % 65536 % 4096 = (address.toNat % 4096 + 1) % 4096
    omega
  rw [Words.readWord?]
  simp only [readByte?_words, some_bind, next]
  rfl

theorem toNat_lowBits (value : UInt8) : (value &&& 0x0F).toNat = value.toNat % 16 := by
  rw [UInt8.toNat_and]
  exact Nat.and_two_pow_sub_one_eq_mod value.toNat 4

theorem register?_words (x : UInt8) :
    machine.words.register? x = some (machine.register (Register.ofNat x.toNat)) := by
  rw [Words.register?, toNat_lowBits]
  exact getElem?_toArray machine.registers (Nat.mod_lt _ (by decide))

theorem setRegister?_words (x value : UInt8) :
    machine.words.setRegister? x value =
      some (machine.setRegister (Register.ofNat x.toNat) value).words := by
  have replaced := replace?_toArray machine.registers (Nat.mod_lt x.toNat (by decide)) value
  rw [Words.setRegister?, toNat_lowBits]
  change (replace? machine.registers.toArray (x.toNat % 16) value >>= _) = _
  rw [replaced]
  rfl

end Access

end Chip8
