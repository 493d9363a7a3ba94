import SuperChip.Attempt
import SuperChip.CommandLine.Argument
import SuperChip.CommandLine.Options
import SuperChip.CommandLine.Parse
import SuperChip.CommandLine.Run
import SuperChip.CommandLine.Usage
import SuperChip.Console.Basic
import SuperChip.Console.Frame
import SuperChip.Console.Status
import SuperChip.Disassembler
import SuperChip.Engine
import SuperChip.Fault
import SuperChip.Folder
import SuperChip.Font
import SuperChip.Instruction.Basic
import SuperChip.Listing
import SuperChip.LowBits
import SuperChip.Machine.Basic
import SuperChip.Machine.Execute
import SuperChip.Machine.Registers
import SuperChip.Machine.Step
import SuperChip.Main
import SuperChip.Memory
import SuperChip.Monitor.Basic
import SuperChip.Monitor.Command
import SuperChip.Monitor.Inspection
import SuperChip.Monitor.Loading
import SuperChip.Monitor.Running
import SuperChip.Monitor.Session
import SuperChip.Monitor.Settings
import SuperChip.Opcode
import SuperChip.Picture
import SuperChip.Plane.Basic
import SuperChip.Plane.Scroll
import SuperChip.Plane.Sprite
import SuperChip.Proofs.Execution
import SuperChip.Proofs.FrameEnd
import SuperChip.Proofs.Host
import SuperChip.Proofs.Indices
import SuperChip.Proofs.Lockstep
import SuperChip.Proofs.Schedule
import SuperChip.Proofs.Step
import SuperChip.Proofs.Superset
import SuperChip.Proofs.WellFormed
import SuperChip.Random.Generator
import SuperChip.Random.Twister
import SuperChip.Text.Blank
import SuperChip.Text.CodeRange
import SuperChip.Text.Digit
import SuperChip.Text.Hexadecimal
import SuperChip.Text.Lowercase
import SuperChip.Text.Numeral
import SuperChip.Text.Printable
import SuperChip.Text.Quoted
import SuperChip.Text.ShellWords
import SuperChip.Variant
import SuperChip.Window
import SuperChip.Proofs.PictureSignal
import SuperChip.Proofs.RandomBytes
import SuperChip.Proofs.Redraw
import SuperChip.Proofs.Restart
import SuperChip.Proofs.Subroutines
import SuperChip.Proofs.Margin
import SuperChip.Proofs.Reachable
import SuperChip.Proofs.BreakpointRun
import SuperChip.Proofs.Renderings
import SuperChip.Proofs.Accounting
import SuperChip.Proofs.QuotedWords
import SuperChip.Proofs.FailedLoads
import SuperChip.Proofs.WindowLoop
import SuperChip.Proofs.Numerals
import SuperChip.Proofs.Decoders
import SuperChip.Proofs.Mnemonics
import SuperChip.Proofs.Disassembly
import SuperChip.Proofs.UnknownOpcodes
import SuperChip.Proofs.StepTrace
import SuperChip.Proofs.Conversation
import SuperChip.Proofs.SideBySide
import SuperChip.Proofs.Preparation
import SuperChip.Proofs.HeadlessRun
import SuperChip.Proofs.StampedPixels
import SuperChip.Proofs.Drawing
import SuperChip.Proofs.Operands
import SuperChip.Proofs.OpcodeTable
import SuperChip.Proofs.Anomalies
import SuperChip.Proofs.Progress
import SuperChip.Proofs.Words
import SuperChip.Proofs.Scrolling
import SuperChip.Proofs.WrittenBytes
import SuperChip.Proofs.HarmlessLines
import SuperChip.Proofs.StepFrame
import SuperChip.Proofs.Transfers
import SuperChip.Proofs.SpriteRequests
import SuperChip.Proofs.ParkedMachines
import SuperChip.Proofs.FaithfulSteps
import SuperChip.Proofs.Listings
import SuperChip.Proofs.ListedMemory
import SuperChip.Proofs.Dumps
import SuperChip.Proofs.Reload
import SuperChip.Proofs.RandomLoads
import SuperChip.Proofs.ScrollAlgebra
import SuperChip.Proofs.SnapshotHistory
import SuperChip.Proofs.ListenerNesting
