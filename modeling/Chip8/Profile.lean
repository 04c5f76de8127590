import Chip8.Platform

set_option autoImplicit false

/-!
What is known about a program besides its bytes. Only the platform, the dialect and the rate
bear on how the program runs; the rest is for display.
-/

namespace Chip8

structure Profile where
  title : String
  authors : List String
  release : Option String
  description : Option String
  platform : Platform
  dialect : Dialect
  /-- Instructions per second. -/
  rate : UInt32

namespace Profile

def ofPlatform (title : String) (platform : Platform) : Profile where
  title := title
  authors := []
  release := none
  description := none
  platform := platform
  dialect := platform.dialect
  rate := platform.usualRate

/-- The program at another rate; no rate is below one. -/
def withRate (profile : Profile) (rate : UInt32) : Profile :=
  { profile with rate := max rate 1 }

def withDialect (profile : Profile) (dialect : Dialect) : Profile :=
  { profile with dialect := dialect }

end Profile

end Chip8
