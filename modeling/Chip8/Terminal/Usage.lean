import Chip8.Terminal.CommandLine

set_option autoImplicit false

/-!
What the program says about its command line.
-/

namespace Chip8.Terminal.CommandLine

def usage : String :=
  "\n".intercalate [
    "Run a CHIP-8 program in the terminal. Esc quits.",
    "",
    "Usage: chip8 [OPTIONS] <ROM>",
    "",
    "Arguments:",
    "  <ROM>  program image to load at 0x200",
    "",
    "Options:",
    "  -p, --platform <PLATFORM>  originalChip8, hybridVIP, modernChip8, chip8x, chip48 or superchip [default: originalChip8]",
    "  -i, --ips <IPS>            instructions per second [default: depends on the platform]",
    "  -f, --filter <FILTER>      none, fix-flicker or fade [default: none]",
    "  -s, --sound                beep rather than staying quiet",
    "  -t, --title <TITLE>        title for the window border [default: the file name]",
    "      --index-overflow-flag  Fx1E sets VF when I passes 0xfff",
    "  -h, --help                 Print help",
    "  -V, --version              Print version"]

def versionText : String := "chip8 0.1.0"

def Problem.text : Problem → String
  | .missingFile => "error: a program image is required"
  | .unknownArgument => "error: unexpected argument"
  | .missingValue => "error: a value is required"
  | .unfitValue => "error: invalid value"
  | .surplusValue => "error: unexpected value for an option without one"
  | .repeatedOption => "error: an option cannot be used multiple times"
  | .helpWanted => usage
  | .versionWanted => versionText

/-- Whether a command line asks for information and is not mistaken. -/
def Problem.isRequest : Problem → Bool
  | .helpWanted => true
  | .versionWanted => true
  | _ => false

end Chip8.Terminal.CommandLine
