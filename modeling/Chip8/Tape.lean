set_option autoImplicit false

/-!
A supply of random bytes. The bytes are an endless sequence that is fixed beforehand, read
from a position that only moves forward; so a run is a function of its tape.
-/

namespace Chip8

/-- An endless sequence of bytes and the position of the next one. -/
structure Tape where
  byte : Nat → UInt8
  position : Nat

namespace Tape

def next (tape : Tape) : UInt8 × Tape :=
  (tape.byte tape.position, { tape with position := tape.position + 1 })

/-- The finalizer of the SplitMix64 generator, which spreads a counter over all bits. -/
def scramble (seed : UInt64) : UInt64 :=
  let first := (seed ^^^ (seed >>> 30)) * 0xbf58476d1ce4e5b9
  let second := (first ^^^ (first >>> 27)) * 0x94d049bb133111eb
  second ^^^ (second >>> 31)

def ofSeed (seed : UInt64) : Tape where
  byte index :=
    ((scramble (seed + (UInt64.ofNat index + 1) * 0x9e3779b97f4a7c15)) >>> 56).toUInt8
  position := 0

end Tape

end Chip8
