import WordMachine.Bench.Basic
import WordMachine.Bench.Devices
import WordMachine.Bench.Stations
import WordMachine.Channel.Basic
import WordMachine.Channel.Chain
import WordMachine.Channel.CodePoint
import WordMachine.Channel.Collector
import WordMachine.Channel.Desk
import WordMachine.Channel.Failure
import WordMachine.Channel.LineBuffer
import WordMachine.Channel.Script
import WordMachine.Channel.Stream
import WordMachine.Channel.Terminal
import WordMachine.Channel.Value
import WordMachine.CommandLine.Argument
import WordMachine.CommandLine.Console
import WordMachine.CommandLine.Misuse
import WordMachine.CommandLine.Option
import WordMachine.CommandLine.Request
import WordMachine.CommandLine.Session
import WordMachine.CommandLine.Usage
import WordMachine.Fault
import WordMachine.File.Failure
import WordMachine.File.Path
import WordMachine.File.SystemName
import WordMachine.File.Tree
import WordMachine.Image
import WordMachine.Log.Journal
import WordMachine.Log.Notice
import WordMachine.Machine.Basic
import WordMachine.Machine.Step
import WordMachine.Main
import WordMachine.Memory
import WordMachine.Opcode
import WordMachine.Operand
import WordMachine.Proofs.Accounting
import WordMachine.Proofs.Atomicity
import WordMachine.Proofs.Bare.Basic
import WordMachine.Proofs.Bare.Calls
import WordMachine.Proofs.Bare.Correspondence
import WordMachine.Proofs.Bare.Execution
import WordMachine.Proofs.Bare.Handler
import WordMachine.Proofs.Bare.Plan
import WordMachine.Proofs.Bare.Safety
import WordMachine.Proofs.Bare.Simulation
import WordMachine.Proofs.BoundedRun
import WordMachine.Proofs.Budgets
import WordMachine.Proofs.Call
import WordMachine.Proofs.Capitals
import WordMachine.Proofs.ChainedInput
import WordMachine.Proofs.ChannelCalls
import WordMachine.Proofs.CommandLine.Conclusion
import WordMachine.Proofs.CommandLine.Console
import WordMachine.Proofs.CommandLine.Opening
import WordMachine.Proofs.Configuration
import WordMachine.Proofs.Conservation
import WordMachine.Proofs.Digits
import WordMachine.Proofs.Dump
import WordMachine.Proofs.Echo
import WordMachine.Proofs.Events
import WordMachine.Proofs.FaultKinds
import WordMachine.Proofs.FieldChanges
import WordMachine.Proofs.Footprint
import WordMachine.Proofs.Hexadecimal
import WordMachine.Proofs.History
import WordMachine.Proofs.ImageCoding
import WordMachine.Proofs.ImageLimit
import WordMachine.Proofs.Interruption
import WordMachine.Proofs.LaterInput
import WordMachine.Proofs.LifeCycle
import WordMachine.Proofs.LineReads
import WordMachine.Proofs.Lines
import WordMachine.Proofs.Literals
import WordMachine.Proofs.Lockstep
import WordMachine.Proofs.Logging
import WordMachine.Proofs.MemoryHistory
import WordMachine.Proofs.MemoryWrites
import WordMachine.Proofs.NestedChains
import WordMachine.Proofs.Operands
import WordMachine.Proofs.Patch
import WordMachine.Proofs.PlanFaults
import WordMachine.Proofs.RawWords
import WordMachine.Proofs.Reading
import WordMachine.Proofs.Reference
import WordMachine.Proofs.Refinement
import WordMachine.Proofs.Resumption
import WordMachine.Proofs.ScriptFile
import WordMachine.Proofs.ScriptReplay
import WordMachine.Proofs.Scripted
import WordMachine.Proofs.Slices
import WordMachine.Proofs.StackDiscipline
import WordMachine.Proofs.Step
import WordMachine.Proofs.StepReports
import WordMachine.Proofs.Tape
import WordMachine.Proofs.TerminalCalls
import WordMachine.Proofs.TerminalOutput
import WordMachine.Proofs.TerminalText
import WordMachine.Proofs.UnreadMemory
import WordMachine.Proofs.Utf8
import WordMachine.Proofs.Word
import WordMachine.Settings
import WordMachine.Snapshot.Basic
import WordMachine.Snapshot.Change
import WordMachine.System.Basic
import WordMachine.System.Run
import WordMachine.Text.Basic
import WordMachine.Text.Blank
import WordMachine.Text.Capital
import WordMachine.Text.CodePoint
import WordMachine.Text.CodeRange
import WordMachine.Text.DecimalDigit
import WordMachine.Text.Hex
import WordMachine.Text.Inexpressible
import WordMachine.Text.Newline
import WordMachine.Text.Numeral
import WordMachine.Text.Printable
import WordMachine.Text.Quoted
import WordMachine.Text.Utf8
import WordMachine.Text.Wrapped
import WordMachine.Word
