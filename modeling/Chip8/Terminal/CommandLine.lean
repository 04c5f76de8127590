import Chip8.Profile
import Chip8.Screen.Pixel

set_option autoImplicit false

/-!
The command line: the file of the program, and options. An option has a long name after two
dashes, and most have a letter after one. A value follows as the next argument or in the same
one, after an equals sign or, with a letter, at once; letters without values can be bundled.
Two dashes alone end the options.

A value is judged only when the next option or file is met or the line ends, so of two
mistakes an unknown name can come before an unfit value to its left.
-/

namespace Chip8.Terminal.CommandLine

structure Options where
  file : String
  platform : Platform
  rate : Option UInt32
  filter : Filter
  sound : Bool
  title : Option String
  indexSetsFlag : Bool
  deriving DecidableEq

inductive Problem where
  | missingFile
  /-- There is no such option, or no place for another file. -/
  | unknownArgument
  /-- An option has no value, or the file has no name. -/
  | missingValue
  /-- A value is none of those that its option takes. -/
  | unfitValue
  /-- A value is given to an option that takes none. -/
  | surplusValue
  /-- An option is given twice. -/
  | repeatedOption
  | helpWanted
  | versionWanted
  deriving DecidableEq

inductive Switch where
  | sound
  | indexSetsFlag
  | help
  | version
  deriving DecidableEq

inductive Setting where
  | platform
  | rate
  | filter
  | title
  deriving DecidableEq

/-- The two kinds of options: those that stand alone, and those that need a value. -/
inductive OptionName where
  | switch (name : Switch)
  | setting (name : Setting)
  deriving DecidableEq

def OptionName.ofLong? : String → Option OptionName
  | "platform" => some (.setting .platform)
  | "ips" => some (.setting .rate)
  | "filter" => some (.setting .filter)
  | "title" => some (.setting .title)
  | "sound" => some (.switch .sound)
  | "index-overflow-flag" => some (.switch .indexSetsFlag)
  | "help" => some (.switch .help)
  | "version" => some (.switch .version)
  | _ => none

def OptionName.ofLetter? : Char → Option OptionName
  | 'p' => some (.setting .platform)
  | 'i' => some (.setting .rate)
  | 'f' => some (.setting .filter)
  | 't' => some (.setting .title)
  | 's' => some (.switch .sound)
  | 'h' => some (.switch .help)
  | 'V' => some (.switch .version)
  | _ => none

inductive Pending where
  | file (name : String)
  | setting (name : Setting) (value : Option String)
  deriving DecidableEq

structure Reading where
  file : Option String
  platform : Option Platform
  rate : Option UInt32
  filter : Option Filter
  title : Option String
  sound : Bool
  indexSetsFlag : Bool
  pending : Option Pending
  /-- A file has been met, judged or not. -/
  fileMet : Bool
  /-- Only files follow. -/
  optionsEnded : Bool
  deriving DecidableEq

namespace Reading

def empty : Reading where
  file := none
  platform := none
  rate := none
  filter := none
  title := none
  sound := false
  indexSetsFlag := false
  pending := none
  fileMet := false
  optionsEnded := false

end Reading

/-- The number that digits stand for; none without digits or with anything else. -/
def digitsValue? (digits : List Char) : Option Nat :=
  if digits.isEmpty then none
  else digits.foldl
    (fun value digit =>
      match value with
      | none => none
      | some value => if digit.isDigit then some (10 * value + (digit.toNat - '0'.toNat)) else none)
    (some 0)

/-- A rate: a number with or without a sign that is not below zero and fits in 32 bits. -/
def rate? (text : String) : Option UInt32 :=
  match text.toList with
  | '+' :: digits => (digitsValue? digits).bind fits
  | '-' :: digits => (digitsValue? digits).bind fun value => if value = 0 then some 0 else none
  | digits => (digitsValue? digits).bind fits
where
  fits (value : Nat) : Option UInt32 :=
    if value < 4294967296 then some (UInt32.ofNat value) else none

def set (reading : Reading) (value : String) : Setting → Except Problem Reading
  | .platform =>
      if reading.platform.isSome then .error .repeatedOption
      else match Platform.ofName value with
        | .ok platform => .ok { reading with platform := some platform }
        | .error _ => .error .unfitValue
  | .rate =>
      if reading.rate.isSome then .error .repeatedOption
      else match rate? value with
        | some rate => .ok { reading with rate := some rate }
        | none => .error .unfitValue
  | .filter =>
      if reading.filter.isSome then .error .repeatedOption
      else match Filter.ofName value with
        | .ok filter => .ok { reading with filter := some filter }
        | .error _ => .error .unfitValue
  | .title =>
      if reading.title.isSome then .error .repeatedOption
      else .ok { reading with title := some value }

def settle (reading : Reading) : Except Problem Reading :=
  let settled := { reading with pending := none }
  match reading.pending with
  | none => .ok settled
  | some (.file name) =>
      if name.isEmpty then .error .missingValue else .ok { settled with file := some name }
  | some (.setting _ none) => .error .missingValue
  | some (.setting name (some value)) => set settled value name

def turnOn (reading : Reading) : Switch → Except Problem Reading
  | .sound =>
      if reading.sound then .error .repeatedOption else .ok { reading with sound := true }
  | .indexSetsFlag =>
      if reading.indexSetsFlag then .error .repeatedOption
      else .ok { reading with indexSetsFlag := true }
  | .help => .error .helpWanted
  | .version => .error .versionWanted

def takeSetting (reading : Reading) (name : Setting) (value : Option String) :
    Except Problem Reading := do
  let settled ← settle reading
  match value with
  | some value => set settled value name
  | none => return { settled with pending := some (.setting name none) }

def takeLong (reading : Reading) (name : String) (value : Option String) :
    Except Problem Reading :=
  match OptionName.ofLong? name, value with
  | none, _ => .error .unknownArgument
  | some (.setting setting), value => takeSetting reading setting value
  | some (.switch _), some _ => .error .surplusValue
  | some (.switch switch), none => do turnOn (← settle reading) switch

/-- The value that follows a letter in the same argument. -/
def attachedValue : List Char → Option String
  | [] => none
  | '=' :: rest => some (String.ofList rest)
  | rest => some (String.ofList rest)

/-- Takes an argument with one dash before it: letters, of which the first that needs a value
takes the rest. -/
def takeLetters (reading : Reading) : List Char → Except Problem Reading
  | [] => .ok reading
  | letter :: rest =>
      match OptionName.ofLetter? letter with
      | none => .error .unknownArgument
      | some (.setting setting) => takeSetting reading setting (attachedValue rest)
      | some (.switch switch) => do takeLetters (← turnOn (← settle reading) switch) rest

def takeFile (reading : Reading) (name : String) : Except Problem Reading :=
  if reading.fileMet then .error .unknownArgument
  else do
    let settled ← settle reading
    return { settled with pending := some (.file name), fileMet := true }

def takePlain (reading : Reading) (argument : String) : Except Problem Reading :=
  match reading.pending with
  | some (.setting name none) =>
      .ok { reading with pending := some (.setting name (some argument)) }
  | _ => takeFile reading argument

def splitValue (characters : List Char) : String × Option String :=
  let name := characters.takeWhile fun character => character != '='
  let value := match characters.dropWhile fun character => character != '=' with
    | [] => none
    | _ :: rest => some (String.ofList rest)
  (String.ofList name, value)

def take (reading : Reading) (argument : String) : Except Problem Reading :=
  if reading.optionsEnded then takeFile reading argument
  else match argument.toList with
    | ['-', '-'] => .ok { reading with optionsEnded := true }
    | '-' :: '-' :: long =>
        let (name, value) := splitValue long
        takeLong reading name value
    | ['-'] => takePlain reading argument
    | '-' :: letters => takeLetters reading letters
    | _ => takePlain reading argument

def parse (arguments : List String) : Except Problem Options := do
  let reading ← settle (← arguments.foldlM take Reading.empty)
  match reading.file with
  | none => .error .missingFile
  | some file =>
      return {
        file := file
        platform := reading.platform.getD .cosmacVip
        rate := reading.rate
        filter := reading.filter.getD Filter.usual
        sound := reading.sound
        title := reading.title
        indexSetsFlag := reading.indexSetsFlag }

/-- The name of a file without its folders and its last ending; names that only point to a
folder have none. -/
def stem? (file : String) : Option String :=
  let parts := (file.splitOn "/").filter fun part => part != "" && part != "."
  match parts.getLast? with
  | none => none
  | some ".." => none
  | some name =>
      let pieces := name.splitOn "."
      if pieces.length ≤ 1 ∨ pieces.dropLast = [""] then some name
      else some (".".intercalate pieces.dropLast)

def Options.shownTitle (options : Options) : String :=
  options.title.getD ((stem? options.file).getD "CHIP-8")

def Options.profile (options : Options) : Profile :=
  let dialect := { options.platform.dialect with indexSetsFlag := options.indexSetsFlag }
  let plain := (Profile.ofPlatform options.shownTitle options.platform).withDialect dialect
  match options.rate with
  | some rate => plain.withRate rate
  | none => plain

end Chip8.Terminal.CommandLine
