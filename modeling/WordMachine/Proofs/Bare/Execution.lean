import WordMachine.Proofs.Bare.Handler
import WordMachine.Proofs.Call

/-!
# Execution on a bare machine

A step fetches the opcode and its operands, and hands them to the handler.  A
fault of the program is recorded in the machine; a defect and a disruption end
the step where it stands.  The remaining activities load programs, report on
steps, and run the machine.
-/

namespace WordMachine
namespace Bare

variable {World : Type}

/-! ## Steps -/

/-- The operands of the instruction at an address, wherever its words are. -/
def operands
    (pc : Int)
    (count : Nat) : Activity World (List Int) :=
  (List.range count).mapM fun index => cell ((pc + (index + 1 : Nat)) % 32768)

/-- Executes the instruction at an address, whose code is given, up to the change of the program
counter, and gives the address where execution goes on. -/
def execute
    (channels : Channels World)
    (pc code : Int) : Activity World Int := do
  match Opcode.ofCode? code with
  | none => do
      let shown ← spell (shownNumber code)
      raise .unknownOpcode s!"unknown opcode {shown} at pc {← spell (shownNumber pc)}"
  | some opcode =>
      let operands ← operands pc opcode.operandCount
      let next ← (← handler channels opcode).call operands
      return next.getD ((pc + opcode.width) % 32768)

/-- Records how the execution of the instruction at an address ended, and gives the status. -/
def conclude (pc : Int) : Except (FaultKind × Text) Int -> Activity World Status
  | .ok next => do
      change fun machine => { machine with pc := next, executed := machine.executed + 1 }
      return (← machine).status
  | .error (kind, message) => do
      change fun machine =>
        { machine with fault := some { kind, message, pc }, status := .faulted }
      -- The log tells about the fault, and names the place.
      let _ ← spell (shownNumber pc)
      return (← machine).status

/-- Executes one instruction, and gives the status after it. -/
def step (channels : Channels World) : Activity World Status := do
  let before ← machine
  if before.status.isTerminal then
    return before.status
  else
    let code ← cell before.pc
    conclude before.pc (← attempt (execute channels before.pc code))

/-- The short name of the instruction with a code, or a question mark and the code. -/
def mnemonic (code : Int) : Activity World String := do
  match Opcode.ofCode? code with
  | some opcode => return opcode.mnemonic
  | none => return s!"?{← spell (shownNumber code)}"

/-- The report on the instruction with a given name that led from one snapshot to the next. -/
def compare
    (mnemonic : Text)
    (before after : Snapshot) : Activity World StepReport :=
  match before.diff? after with
  | some changed => return { pc := before.pc, mnemonic, before, after, changed }
  | none => throw (.defect (.missingRegister (min before.registers.length after.registers.length)))

/-- Executes one instruction and reports on it. -/
def reportedStep (channels : Channels World) : Activity World StepReport := do
  let before := (← machine).snapshot
  let code ← cell before.pc
  let mnemonic ← mnemonic code
  let _ ← step channels
  compare mnemonic before (← machine).snapshot

/-! ## Loading and running -/

/-- Copies words to the start of the memory, and gives their number. -/
def copy (words : List Word) : Activity World Nat := do
  if words.length ≤ (← machine).memory.length then
    change fun machine =>
      { machine with memory := numbers words ++ machine.memory.drop words.length }
    return words.length
  else
    throw (.defect (.oversizedBlock words.length))

/-- Loads a program image, and gives the number of its words. -/
def load (bytes : Array UInt8) : Activity World Nat :=
  match Image.decode? Image.capacity bytes with
  | none => throw (.defect .unpairedByte)
  | some words => copy words

/-- Executes one instruction of a run, with a report if the run is traced. -/
def runStep
    (channels : Channels World)
    (traced : Bool) : Activity World Unit := do
  if traced then
    let _ ← reportedStep channels
  else
    let _ ← step channels

/-- Continues a run that has made some steps. -/
def run
    (channels : Channels World)
    (options : RunOptions)
    (traced : Bool)
    (fuel steps : Nat) : Activity World Answer := do
  let before ← machine
  match before.status with
  | .running =>
      match options.exhaustedBy steps with
      | some _ =>
          return .ran { status := .running, steps, fault := none, limitReached := true }
      | none =>
          match fuel with
          | 0 => return .unfinished steps
          | fuel + 1 =>
              runStep channels traced
              run channels options traced fuel (steps + 1)
  | status => return .ran { status, steps, fault := before.fault, limitReached := false }

/-! ## Calls -/

/-- Makes a call. -/
def perform
    (channels : Channels World)
    (verbosity : Verbosity) : Call -> Activity World Answer
  | .load bytes => return .loaded (← load bytes)
  | .step => return .stepped (← step channels)
  | .reportedStep => return .reported (← reportedStep channels)
  | .run options fuel => run channels options (options.trace && verbosity.showsSteps) fuel 0

/-- Makes calls one after the other, however each of them ends. -/
def performAll
    (channels : Channels World)
    (verbosity : Verbosity) :
    List Call -> BareMachine × World -> List (Except Exit Answer) × BareMachine × World
  | [], state => ([], state)
  | call :: calls, state =>
      match (perform channels verbosity call).run state with
      | .ok answer state =>
          let (answers, state) := performAll channels verbosity calls state
          (.ok answer :: answers, state)
      | .error exit state =>
          let (answers, state) := performAll channels verbosity calls state
          (.error exit :: answers, state)

end Bare
end WordMachine
