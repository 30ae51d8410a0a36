import Chip8.Number.Arithmetic
import Chip8.Number.Encoding
import Chip8.Number.Decimal
import Chip8.Layout
import Chip8.Font
import Chip8.Instruction.Encoding
import Chip8.Instruction.Mnemonic
import Chip8.Random
import Chip8.CallStack
import Chip8.Bitmap
import Chip8.Text.Quoted
import Chip8.Text.CharacterClass
import Chip8.Number.Numeral
import Chip8.Error
import Chip8.Machine.Execution
import Chip8.Timing
import Chip8.Logger
import Chip8.Picture
import Chip8.Config.Reading
import Chip8.Session.Operation
import Chip8.CommandLine
import Chip8.Main
import Chip8.Proofs.Instruction.Patterns
import Chip8.Proofs.Instruction.Encodings
import Chip8.Proofs.Machine.Blocks
import Chip8.Proofs.CallStack
import Chip8.Proofs.Machine.Effects
import Chip8.Proofs.Machine.Faults
import Chip8.Proofs.System.Step
import Chip8.Proofs.System.Tick
import Chip8.Proofs.System.Histories
import Chip8.Proofs.Machine.Control
import Chip8.Proofs.System.Failures
import Chip8.Proofs.System.Halting
import Chip8.Proofs.System.Bounds
import Chip8.Proofs.Machine.Nesting
import Chip8.Proofs.System.KeyWait
import Chip8.Proofs.Machine.Footprint
import Chip8.Proofs.Machine.Agreement
import Chip8.Proofs.System.Lockstep
import Chip8.Proofs.System.Modes
import Chip8.Proofs.System.Interference
import Chip8.Proofs.Number.Rounding
import Chip8.Proofs.Machine.Timers
import Chip8.Proofs.Number.Integers
import Chip8.Proofs.Timing.Splits
import Chip8.Proofs.System.Timers
import Chip8.Proofs.Machine.Sources
import Chip8.Proofs.System.RandomStream
import Chip8.Proofs.System.Frames
import Chip8.Proofs.System.KeyEvents
import Chip8.Proofs.System.Refinement
import Chip8.Proofs.Number.Overflow
import Chip8.Proofs.Number.Amounts
import Chip8.Proofs.Timing.Unbounded
import Chip8.Proofs.System.Unbounded
import Chip8.Proofs.Machine.Programs
import Chip8.Proofs.Statistics
import Chip8.Proofs.Session.Histories
import Chip8.Proofs.Session.Unbounded
import Chip8.Proofs.Session.Requests
import Chip8.Proofs.Session.Output
import Chip8.Proofs.Session.Observers
import Chip8.Proofs.Session.Counts
import Chip8.Proofs.Session.Resets
import Chip8.Proofs.Session.Loading
import Chip8.Proofs.Sprite
import Chip8.Proofs.Machine.Drawing
import Chip8.Proofs.Machine.Calculation
import Chip8.Proofs.Machine.Transfers
import Chip8.Proofs.Session.Runs
import Chip8.Proofs.Machine.StraightLine
import Chip8.Proofs.Machine.Writes
import Chip8.Proofs.Sprite.Placed
import Chip8.Proofs.Instruction.Assembly
import Chip8.Proofs.System.Wrapping
import Chip8.Proofs.Rendering
import Chip8.Proofs.CommandLine.Settings
import Chip8.Proofs.Session.Endings
import Chip8.Proofs.CommandLine.Stages
import Chip8.Proofs.CommandLine.ExitStatus
