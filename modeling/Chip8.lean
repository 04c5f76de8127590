import Chip8.Profile
import Chip8.Control
import Chip8.Timers
import Chip8.ProgramSource
import Chip8.Screen.Reach
import Chip8.Tape
import Chip8.Instruction.Code
import Chip8.Main
import Chip8.Proofs.Reached
import Chip8.Proofs.Slots
import Chip8.Proofs.Slicing
import Chip8.Proofs.History
import Chip8.Proofs.Sounding
import Chip8.Proofs.Picture
import Chip8.Proofs.WordRuns
import Chip8.Proofs.Nesting
import Chip8.Proofs.Cadence
import Chip8.Proofs.HeldDraw
import Chip8.Proofs.KeyWait
import Chip8.Proofs.Dialects
import Chip8.Proofs.Glow
import Chip8.Proofs.Filters
import Chip8.Proofs.ToneEdges
import Chip8.Proofs.Reloading
import Chip8.Proofs.Halting
import Chip8.Proofs.Table
import Chip8.Proofs.Effects
import Chip8.Proofs.Transfers
import Chip8.Proofs.Combining
import Chip8.Proofs.Overlay
import Chip8.Proofs.Underflows
import Chip8.Proofs.Fading
import Chip8.Proofs.Scrolling
import Chip8.Proofs.Magnifying
import Chip8.Proofs.Holding
import Chip8.Proofs.Loading
import Chip8.Proofs.Shading
import Chip8.Proofs.Native
import Chip8.Proofs.Timekeeping
